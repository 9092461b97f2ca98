import SoapWrap.Yaml.Block
import SoapWrap.Yaml.Scalar
import SoapWrap.Yaml.Tag

/-!
Tokens of YAML. A key is known as one only at the colon behind it, so the scanner remembers where the
last one may have started, for each level of flow collections. Anchors are numbered; the number of a
name that comes again is that of the next new name too.
-/

namespace SoapWrap.Yaml

inductive Token where
  | scalar (text : String) (plain : Bool)
  | anchor (id : Nat)
  | reference (id : Nat)
  | tag (handle : String) (suffix : TagText)
  | directive (d : Directive)
  | key
  | value
  | blockEntry
  | flowEntry
  | sequenceStart
  | mappingStart
  | blockEnd
  | flowSequenceStart
  | flowSequenceEnd
  | flowMappingStart
  | flowMappingEnd
  | documentStart
  | documentEnd
  deriving DecidableEq

structure KeyMark where
  required : Bool
  /-- The number of tokens in front of it. -/
  position : Nat
  line : Nat
  column : Nat
  index : Nat

structure Scanner where
  cursor : Cursor
  tokens : List Token := []
  /-- The column of the innermost block collection; none at the top. -/
  indent : Option Nat := none
  outerIndents : List (Option Nat) := []
  keyMark : Option KeyMark := none
  outerKeys : List (Option KeyMark) := []
  keyAllowed : Bool := true
  /-- The names of the anchors so far, each with its last number. -/
  anchors : List (String × Nat) := []

namespace Scanner

def inFlow (s : Scanner) : Bool := !s.outerKeys.isEmpty

def push (s : Scanner) (t : Token) : Scanner := { s with tokens := t :: s.tokens }

def insertAt (s : Scanner) (position : Nat) (t : Token) : Scanner :=
  let later := s.tokens.length - position
  { s with tokens := s.tokens.take later ++ t :: s.tokens.drop later }

def isStale (s : Scanner) (k : KeyMark) : Bool :=
  k.line < s.cursor.line || k.index + 1024 < s.cursor.index

def dropStale (s : Scanner) : Option Scanner :=
  let check (k : Option KeyMark) : Option (Option KeyMark) :=
    match k with
    | some k => if s.isStale k then (if k.required then none else some none) else some (some k)
    | none => some none
  match check s.keyMark, s.outerKeys.mapM check with
  | some keyMark, some outerKeys => some { s with keyMark, outerKeys }
  | _, _ => none

def dropKey (s : Scanner) : Option Scanner :=
  match s.keyMark with
  | some k => if k.required then none else some { s with keyMark := none }
  | none => some s

def markKey (s : Scanner) : Option Scanner :=
  if s.keyAllowed then
    s.dropKey.map fun s => { s with keyMark := some {
      required := !s.inFlow && s.indent == some s.cursor.column
      position := s.tokens.length
      line := s.cursor.line
      column := s.cursor.column
      index := s.cursor.index } }
  else some s

def isDeeper (column : Nat) : Option Nat → Bool
  | none => true
  | some indent => indent < column

def openBlock (s : Scanner) (column position : Nat) (start : Token) : Scanner :=
  if s.inFlow || !isDeeper column s.indent then s
  else { s with outerIndents := s.indent :: s.outerIndents, indent := some column }.insertAt
    position start

def closeBlocks (column : Option Nat) : (fuel : Nat) → Scanner → Scanner
  | 0, s => s
  | fuel + 1, s =>
    match s.indent, s.outerIndents with
    | some indent, outer :: outers =>
      if !s.inFlow && column.all (· < indent) then
        closeBlocks column fuel ({ s with indent := outer, outerIndents := outers }.push .blockEnd)
      else s
    | _, _ => s

def unwind (s : Scanner) (column : Option Nat) : Scanner :=
  closeBlocks column s.outerIndents.length s

def move (s : Scanner) (f : Cursor → Cursor) : Scanner := { s with cursor := f s.cursor }

def skipToToken : (fuel : Nat) → Scanner → Scanner
  | 0, s => s
  | fuel + 1, s =>
    match s.cursor.rest with
    | [] => s
    | c :: _ =>
      if c == ' ' || (c == '\t' && (s.inFlow || !s.keyAllowed)) ||
          (c == '\ufeff' && s.cursor.index == 0) then
        skipToToken fuel (s.move Cursor.skip)
      else if c == '#' then skipToToken fuel (s.move Cursor.skipComment)
      else if isBreak c then
        let s := s.move Cursor.skipBreak
        skipToToken fuel (if s.inFlow then s else { s with keyAllowed := true })
      else s

def scanMarker (s : Scanner) (t : Token) : Option Scanner :=
  (s.unwind none).dropKey.map fun s =>
    ({ s with keyAllowed := false }.move (·.skipMany 3)).push t

def scanDirective (s : Scanner) : Option Scanner := do
  let s ← (s.unwind none).dropKey
  let (directive, cursor) ← readDirective s.cursor
  return { s with keyAllowed := false, cursor }.push (.directive directive)

def openFlow (s : Scanner) (t : Token) : Option Scanner :=
  s.markKey.map fun s =>
    ({ s with outerKeys := s.keyMark :: s.outerKeys, keyMark := none, keyAllowed := true }.move
      Cursor.skip).push t

def closeFlow (s : Scanner) (t : Token) : Option Scanner :=
  s.dropKey.map fun s =>
    let s := match s.outerKeys with
      | k :: ks => { s with keyMark := k, outerKeys := ks }
      | [] => s
    ({ s with keyAllowed := false }.move Cursor.skip).push t

def scanFlowEntry (s : Scanner) : Option Scanner :=
  s.dropKey.map fun s => ({ s with keyAllowed := true }.move Cursor.skip).push .flowEntry

def scanBlockEntry (s : Scanner) : Option Scanner :=
  if !s.inFlow && !s.keyAllowed then none
  else
    (s.openBlock s.cursor.column s.tokens.length .sequenceStart).dropKey.map fun s =>
      ({ s with keyAllowed := true }.move Cursor.skip).push .blockEntry

def scanKey (s : Scanner) : Option Scanner :=
  if !s.inFlow && !s.keyAllowed then none
  else
    (s.openBlock s.cursor.column s.tokens.length .mappingStart).dropKey.map fun s =>
      ({ s with keyAllowed := !s.inFlow }.move Cursor.skip).push .key

def scanValue (s : Scanner) : Option Scanner :=
  match s.keyMark with
  | some k =>
    let s := (s.insertAt k.position .key).openBlock k.column k.position .mappingStart
    some (({ s with keyMark := none, keyAllowed := false }.move Cursor.skip).push .value)
  | none =>
    if !s.inFlow && !s.keyAllowed then none
    else
      let s := s.openBlock s.cursor.column s.tokens.length .mappingStart
      some (({ s with keyAllowed := !s.inFlow }.move Cursor.skip).push .value)

def scanAnchor (s : Scanner) : Option Scanner := do
  let s ← s.markKey
  let (name, cursor) ← readName s.cursor.skip
  let id := s.anchors.length
  let anchors := (name, id) :: s.anchors.filter (·.1 != name)
  return { s with keyAllowed := false, cursor, anchors }.push (.anchor id)

def scanAlias (s : Scanner) : Option Scanner := do
  let s ← s.markKey
  let (name, cursor) ← readName s.cursor.skip
  let id ← s.anchors.lookup name
  return { s with keyAllowed := false, cursor }.push (.reference id)

def scanTag (s : Scanner) : Option Scanner := do
  let s ← s.markKey
  let ((handle, suffix), cursor) ← readTag s.cursor
  if atBlank cursor.rest || (s.inFlow && cursor.rest.head? == some ',') then
    return { s with keyAllowed := false, cursor }.push (.tag handle suffix)
  else none

def scanBlock (s : Scanner) (literal : Bool) : Option Scanner := do
  let s ← s.dropKey
  let (text, cursor) ← readBlock literal s.indent s.cursor.skip
  return { s with keyAllowed := true, cursor }.push (.scalar (.ofList text) false)

def scanQuoted (s : Scanner) (single : Bool) : Option Scanner :=
  s.markKey.bind fun s =>
    (readQuoted single [] (s.cursor.rest.length + 1) s.cursor.skip).map fun (text, cursor) =>
      { s with keyAllowed := false, cursor }.push (.scalar (.ofList text) false)

def scanPlain (s : Scanner) : Option Scanner :=
  s.markKey.bind fun s =>
    let indent := (s.indent.map (· + 1)).getD 0
    (readPlain s.inFlow indent [] {} s.cursor.rest.length s.cursor).map
      fun (text, broken, cursor) =>
        { s with keyAllowed := broken, cursor }.push (.scalar (.ofList text) true)

def isIndicator (c : Char) : Bool := "-?:,[]\x7b\x7d#&*!|>'\"%@\x60".toList.contains c

def startsPlain (s : Scanner) (c : Char) (rest : List Char) : Bool :=
  (!isBlank c && !isIndicator c) || (c == '-' && !(rest.head?.any isBlank)) ||
    (!s.inFlow && (c == '?' || c == ':') && !atBlank rest)

def scanToken (s : Scanner) (c : Char) (rest : List Char) : Option Scanner :=
  if s.cursor.column == 0 && c == '%' then s.scanDirective
  else if s.cursor.atMarker '-' then s.scanMarker .documentStart
  else if s.cursor.atMarker '.' then s.scanMarker .documentEnd
  else if c == '[' then s.openFlow .flowSequenceStart
  else if c == '{' then s.openFlow .flowMappingStart
  else if c == ']' then s.closeFlow .flowSequenceEnd
  else if c == '}' then s.closeFlow .flowMappingEnd
  else if c == ',' then s.scanFlowEntry
  else if c == '-' && atBlank rest then s.scanBlockEntry
  else if c == '?' && (s.inFlow || atBlank rest) then s.scanKey
  else if c == ':' && (s.inFlow || atBlank rest) then s.scanValue
  else if c == '*' then s.scanAlias
  else if c == '&' then s.scanAnchor
  else if c == '!' then s.scanTag
  else if c == '|' && !s.inFlow then s.scanBlock true
  else if c == '>' && !s.inFlow then s.scanBlock false
  else if c == '\'' then s.scanQuoted true
  else if c == '"' then s.scanQuoted false
  else if s.startsPlain c rest then s.scanPlain
  else none

def finish (s : Scanner) : Option (List Token) :=
  let s := if s.cursor.column == 0 then s
    else s.move fun c => { c with line := c.line + 1, column := 0 }
  (s.unwind none).dropKey.map (·.tokens.reverse)

def run : (fuel : Nat) → Scanner → Option (List Token)
  | 0, _ => none
  | fuel + 1, s =>
    match (skipToToken (s.cursor.rest.length + 1) s).dropStale with
    | none => none
    | some s =>
      let s := s.unwind (some s.cursor.column)
      match s.cursor.rest with
      | [] => s.finish
      | c :: rest => (s.scanToken c rest).bind (run fuel)

end Scanner

def tokens (text : List Char) : Option (List Token) :=
  if text.all isAllowed then Scanner.run (text.length + 1) { cursor := { rest := text } } else none

end SoapWrap.Yaml
