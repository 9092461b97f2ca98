import SoapWrap.Document
import SoapWrap.Yaml.Token

/-!
YAML documents: scalars, sequences and mappings, which may have tags and anchors, and references to
anchors. What is missing, such as the value of a key with nothing behind it, is the empty plain
scalar.
-/

namespace SoapWrap

/-- What matters of a tag: a name of the document's own, a type of the core schema, or any other. -/
inductive NodeTag where
  | named (name : String)
  | null
  | bool
  | int
  | float
  /-- A tag of the document's own whose octets are no text. -/
  | garbled
  | other
  deriving DecidableEq

def NodeTag.ofText (text : Yaml.TagText) : NodeTag :=
  match text.mapM id with
  | some ['!'] => named "!"
  | some ('!' :: name) => named (.ofList name)
  | some cs =>
    if cs = "tag:yaml.org,2002:null".toList then null
    else if cs = "tag:yaml.org,2002:bool".toList then bool
    else if cs = "tag:yaml.org,2002:int".toList then int
    else if cs = "tag:yaml.org,2002:float".toList then float
    else other
  | none => if text.head? = some (some '!') then garbled else other

inductive Yaml where
  | scalar (tag : Option NodeTag) (text : String) (plain : Bool)
  | sequence (tag : Option NodeTag) (items : List Yaml)
  | mapping (tag : Option NodeTag) (entries : List (Yaml × Yaml))
  | anchored (id : Nat) (node : Yaml)
  | reference (id : Nat)

namespace Yaml

def missing : Yaml := scalar none "" true

instance : Inhabited Yaml := ⟨missing⟩

abbrev Handles := List (String × TagText)

def defaultHandles : Handles :=
  [("!", [some '!']), ("!!", "tag:yaml.org,2002:".toList.map some)]

structure Properties where
  anchor : Option Nat := none
  tag : Option TagText := none

namespace Properties

def isEmpty (p : Properties) : Bool := p.anchor.isNone && p.tag.isNone

def nodeTag (p : Properties) : Option NodeTag := p.tag.map NodeTag.ofText

def scalarTag (p : Properties) : Option NodeTag :=
  (p.tag.filter (· != [some '!'])).map NodeTag.ofText

def mark (p : Properties) (node : Yaml) : Yaml :=
  match p.anchor with
  | some id => anchored id node
  | none => node

end Properties

def resolveTag? (handles : Handles) (handle : String) (suffix : TagText) : Option TagText :=
  if handle = "" then some suffix else (handles.lookup handle).map (· ++ suffix)

def readProperties (handles : Handles) : List Token → Option (Properties × List Token)
  | .anchor id :: .tag handle suffix :: ts | .tag handle suffix :: .anchor id :: ts =>
    (resolveTag? handles handle suffix).map fun tag => ({ anchor := some id, tag := some tag }, ts)
  | .anchor id :: ts => some ({ anchor := some id }, ts)
  | .tag handle suffix :: ts =>
    (resolveTag? handles handle suffix).map fun tag => ({ tag := some tag }, ts)
  | ts => some ({}, ts)

def isNext (stops : List Token) : List Token → Bool
  | [] => true
  | t :: _ => stops.contains t

def flowSeparator (first : Bool) (close : Token) (ts : List Token) : Option (List Token) :=
  match ts with
  | .flowEntry :: rest => if first then some ts else some rest
  | t :: _ => if first || t == close then some ts else none
  | [] => none

section Nodes

variable (handles : Handles)

mutual
/-- Reads a node; in a block mapping a sequence may stand without an indentation of its own. -/
def readNode (block unindented : Bool) : (fuel : Nat) → List Token → Option (Yaml × List Token)
  | 0, _ => none
  | fuel + 1, ts =>
    match ts with
    | .reference id :: ts => some (reference id, ts)
    | ts =>
      match readProperties handles ts with
      | none => none
      | some (p, ts) =>
        (readContent p block unindented fuel ts).map fun (node, ts) => (p.mark node, ts)
def readContent (p : Properties) (block unindented : Bool) :
    (fuel : Nat) → List Token → Option (Yaml × List Token)
  | 0, _ => none
  | fuel + 1, ts =>
    let nothing : Option (Yaml × List Token) :=
      if p.isEmpty then none else some (scalar p.nodeTag "" true, ts)
    match ts with
    | .scalar text plain :: ts => some (scalar p.scalarTag text plain, ts)
    | .flowSequenceStart :: ts =>
      (readFlowItems true fuel ts).map fun (items, ts) => (sequence p.nodeTag items, ts)
    | .flowMappingStart :: ts =>
      (readFlowEntries true fuel ts).map fun (entries, ts) => (mapping p.nodeTag entries, ts)
    | .blockEntry :: _ =>
      if unindented then
        (readUnindented fuel ts).map fun (items, ts) => (sequence p.nodeTag items, ts)
      else nothing
    | .sequenceStart :: ts =>
      if block then
        (readBlockItems fuel ts).map fun (items, ts) => (sequence p.nodeTag items, ts)
      else nothing
    | .mappingStart :: ts =>
      if block then
        (readBlockEntries fuel ts).map fun (entries, ts) => (mapping p.nodeTag entries, ts)
      else nothing
    | _ => nothing
def readOptional (block unindented : Bool) (stops : List Token) :
    (fuel : Nat) → List Token → Option (Yaml × List Token)
  | 0, _ => none
  | fuel + 1, ts =>
    if isNext stops ts then some (missing, ts) else readNode block unindented fuel ts
def readBlockItems : (fuel : Nat) → List Token → Option (List Yaml × List Token)
  | 0, _ => none
  | fuel + 1, ts =>
    match ts with
    | .blockEnd :: ts => some ([], ts)
    | .blockEntry :: ts =>
      match readOptional true false [.blockEntry, .blockEnd] fuel ts with
      | none => none
      | some (item, ts) => (readBlockItems fuel ts).map fun (items, ts) => (item :: items, ts)
    | _ => none
def readUnindented : (fuel : Nat) → List Token → Option (List Yaml × List Token)
  | 0, _ => none
  | fuel + 1, ts =>
    match ts with
    | .blockEntry :: ts =>
      match readOptional true false [.blockEntry, .key, .value, .blockEnd] fuel ts with
      | none => none
      | some (item, ts) => (readUnindented fuel ts).map fun (items, ts) => (item :: items, ts)
    | ts => some ([], ts)
def readBlockEntries : (fuel : Nat) → List Token → Option (List (Yaml × Yaml) × List Token)
  | 0, _ => none
  | fuel + 1, ts =>
    match ts with
    | .blockEnd :: ts => some ([], ts)
    | .key :: ts =>
      match readOptional true true [.key, .value, .blockEnd] fuel ts with
      | none => none
      | some (key, ts) =>
        match readValue true true [.key, .value, .blockEnd] fuel ts with
        | none => none
        | some (value, ts) =>
          (readBlockEntries fuel ts).map fun (entries, ts) => ((key, value) :: entries, ts)
    | _ => none
def readValue (block unindented : Bool) (stops : List Token) :
    (fuel : Nat) → List Token → Option (Yaml × List Token)
  | 0, _ => none
  | fuel + 1, ts =>
    match ts with
    | .value :: ts => readOptional block unindented stops fuel ts
    | ts => some (missing, ts)
def readFlowItems (first : Bool) : (fuel : Nat) → List Token → Option (List Yaml × List Token)
  | 0, _ => none
  | fuel + 1, ts =>
    match flowSeparator first .flowSequenceEnd ts with
    | none => none
    | some (.flowSequenceEnd :: ts) => some ([], ts)
    | some (.key :: ts) =>
      -- Where the key is missing, the token that tells so is lost.
      let start := if isNext [.value, .flowEntry, .flowSequenceEnd] ts
        then some (missing, ts.drop 1) else readNode false false fuel ts
      match start with
      | none => none
      | some (key, ts) =>
        match readValue false false [.flowEntry, .flowSequenceEnd] fuel ts with
        | none => none
        | some (value, ts) =>
          (readFlowItems false fuel ts).map
            fun (items, ts) => (mapping none [(key, value)] :: items, ts)
    | some ts =>
      match readNode false false fuel ts with
      | none => none
      | some (item, ts) => (readFlowItems false fuel ts).map fun (items, ts) => (item :: items, ts)
def readFlowEntries (first : Bool) :
    (fuel : Nat) → List Token → Option (List (Yaml × Yaml) × List Token)
  | 0, _ => none
  | fuel + 1, ts =>
    match flowSeparator first .flowMappingEnd ts with
    | none => none
    | some (.flowMappingEnd :: ts) => some ([], ts)
    | some (.key :: ts) =>
      match readOptional false false [.value, .flowEntry, .flowMappingEnd] fuel ts with
      | none => none
      | some (key, ts) =>
        match readValue false false [.flowEntry, .flowMappingEnd] fuel ts with
        | none => none
        | some (value, ts) =>
          (readFlowEntries false fuel ts).map fun (entries, ts) => ((key, value) :: entries, ts)
    | some ts =>
      match readNode false false fuel ts with
      | none => none
      | some (key, ts) =>
        (readFlowEntries false fuel ts).map fun (entries, ts) => ((key, missing) :: entries, ts)
end

end Nodes

def readDirectives (versioned : Bool) (handles : Handles) :
    List Token → Option (Handles × List Token)
  | .directive (.version major minor) :: ts =>
    if versioned || major != 1 || (minor != 1 && minor != 2) then none
    else readDirectives true handles ts
  | .directive (.tag handle front) :: ts =>
    if (handles.lookup handle).isSome then none
    else readDirectives versioned ((handle, front) :: handles) ts
  | ts => some (handles ++ defaultHandles, ts)

def endsContent : List Token → Bool
  | [] => true
  | .directive _ :: _ | .documentStart :: _ | .documentEnd :: _ => true
  | _ => false

def readExplicit (fuel : Nat) (ts : List Token) : Option (Yaml × List Token) :=
  match readDirectives false [] ts with
  | some (handles, .documentStart :: ts) =>
    if endsContent ts then some (missing, ts) else readNode handles true false fuel ts
  | _ => none

def ofTokens? (ts : List Token) : Option Yaml :=
  let fuel := 4 * ts.length + 4
  let read : Option (Yaml × List Token) :=
    match ts with
    | [] => some (missing, [])
    | .documentStart :: _ | .directive _ :: _ => readExplicit fuel ts
    | ts => readNode defaultHandles true false fuel ts
  match read with
  | none => none
  | some (node, ts) => if (ts.dropWhile (· == .documentEnd)).isEmpty then some node else none

mutual
def anchors : Yaml → List (Nat × Yaml)
  | scalar _ _ _ | reference _ => []
  | sequence _ items => anchorsOfItems items
  | mapping _ entries => anchorsOfEntries entries
  | anchored id node => (id, node) :: anchors node
def anchorsOfItems : List Yaml → List (Nat × Yaml)
  | [] => []
  | y :: rest => anchors y ++ anchorsOfItems rest
def anchorsOfEntries : List (Yaml × Yaml) → List (Nat × Yaml)
  | [] => []
  | (k, v) :: rest => anchors k ++ anchors v ++ anchorsOfEntries rest
end

mutual
def size : Yaml → Nat
  | scalar _ _ _ | reference _ => 1
  | sequence _ items => sizeOfItems items + 2
  | mapping _ entries => sizeOfEntries entries + 2
  | anchored _ node => size node
def sizeOfItems : List Yaml → Nat
  | [] => 0
  | y :: rest => size y + sizeOfItems rest
def sizeOfEntries : List (Yaml × Yaml) → Nat
  | [] => 0
  | (k, v) :: rest => size k + size v + sizeOfEntries rest
end

def maxJumps (y : Yaml) : Nat := 100 * y.size

/-- A node with the nodes that references stand for; of one number the first counts. -/
structure View where
  node : Yaml
  table : List (Nat × Yaml)

namespace View

def ofYaml (y : Yaml) : View := ⟨y, y.anchors.reverse⟩

def sub (v : View) (y : Yaml) : View := { v with node := y }

def head (v : View) : Yaml :=
  match v.node with
  | anchored _ y => y
  | reference id => (v.table.lookup id).getD missing
  | y => y

def isReference (v : View) : Bool :=
  match v.node with
  | reference _ => true
  | _ => false

def text? (v : View) : Option String :=
  match v.head with
  | scalar _ s _ => some s
  | _ => none

def keyed? (v : View) (entries : List (Yaml × Yaml)) : Option (List (String × View)) :=
  entries.mapM fun (key, value) => (v.sub key).text?.map (·, v.sub value)

end View

def isNullWord (s : String) : Bool := s == "~" || s == "null" || s == "Null" || s == "NULL"

def isNullText (s : String) : Bool := s == "" || isNullWord s

instance : Document View where
  text? := View.text?
  items? v :=
    match v.head with
    | sequence _ items => some (items.map v.sub)
    | scalar _ "" true => some []
    | _ => none
  entries? v :=
    match v.head with
    | mapping _ entries => v.keyed? entries
    | scalar _ "" true => some []
    | _ => none
  layout? v :=
    match v.head with
    | mapping _ entries => (v.keyed? entries).map .keyed
    | sequence _ items => some (.positional (items.map v.sub))
    | scalar _ "" true => some (.keyed [])
    | _ => none
  choice? v :=
    match v.head with
    | scalar (some (.named name)) s plain => if plain && isNullText s then some name else none
    | scalar _ s _ => some s
    | _ => none
  absent? v :=
    match v.head with
    | scalar none s true => some (isNullText s)
    | scalar (some .null) s true => if isNullWord s then some true else none
    | _ => some false

def parse (text : String) : Option View :=
  ((tokens text.toList).bind ofTokens?).map .ofYaml

end Yaml

end SoapWrap
