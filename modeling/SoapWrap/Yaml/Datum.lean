import SoapWrap.Decimal.Reader
import SoapWrap.Yaml.Node

/-!
What YAML nodes stand for under the core schema: a plain scalar may be null, a truth value or a
number. Mappings have distinct keys. A tag of the document's own is kept with what it marks.
-/

namespace SoapWrap

inductive Datum where
  | null
  | bool (b : Bool)
  | int (i : Int)
  | float (bits : UInt64)
  | text (s : String)
  | sequence (items : List Datum)
  | mapping (entries : List (Datum × Datum))
  | tagged (tag : String) (value : Datum)

namespace Datum

instance : Inhabited Datum := ⟨null⟩

/-- What is no number counts as equal to itself here. -/
def sameFloat (a b : UInt64) : Bool :=
  (Binary64.isNaN a && Binary64.isNaN b) || Binary64.equal a b

mutual
def same : Datum → Datum → Bool
  | null, null => true
  | bool a, bool b => a == b
  | int a, int b => a == b
  | float a, float b => sameFloat a b
  | text a, text b => a == b
  | sequence as, sequence bs => sameItems as bs
  | mapping as, mapping bs => as.length == bs.length && sameEntries as bs
  | tagged s a, tagged t b => s == t && same a b
  | _, _ => false
def sameItems : List Datum → List Datum → Bool
  | [], [] => true
  | a :: as, b :: bs => same a b && sameItems as bs
  | _, _ => false
def sameEntries : List (Datum × Datum) → List (Datum × Datum) → Bool
  | [], _ => true
  | (k, v) :: as, bs => bs.any (fun b => same k b.1 && same v b.2) && sameEntries as bs
end

def readDigits? (base : Nat) (cs : List Char) : Option Nat :=
  if cs.isEmpty then none
  else (cs.mapM fun c => (Text.hexValue c).filter (· < base)).map
    (·.foldl (fun n d => n * base + d) 0)

def readUnsigned? : List Char → Option Nat
  | '0' :: 'x' :: cs => readDigits? 16 cs
  | '0' :: 'o' :: cs => readDigits? 8 cs
  | '0' :: 'b' :: cs => readDigits? 2 cs
  | cs => readDigits? 10 cs

def dropSign : List Char → List Char
  | '+' :: cs => cs
  | '-' :: cs => cs
  | cs => cs

def isZeroPadded (cs : List Char) : Bool :=
  match dropSign cs with
  | '0' :: c :: rest => (c :: rest).all Decimal.isDigit
  | _ => false

def readInt? (cs : List Char) : Option Int :=
  if isZeroPadded cs then none
  else match cs with
    | '-' :: cs => (readUnsigned? cs).map fun n => -(n : Int)
    | '+' :: cs => (readUnsigned? cs).map Int.ofNat
    | cs => (readUnsigned? cs).map Int.ofNat

def readFloat? (cs : List Char) : Option UInt64 :=
  let s := String.ofList cs
  if [".inf", ".Inf", ".INF", "+.inf", "+.Inf", "+.INF"].contains s then some Binary64.infinity
  else if ["-.inf", "-.Inf", "-.INF"].contains s then some (Binary64.negate Binary64.infinity)
  else if [".nan", ".NaN", ".NAN"].contains s then some Binary64.nan
  else match cs with
    | '+' :: '-' :: _ => none
    | '+' :: '+' :: _ => none
    | cs => Decimal.readFinite? cs

def truth? (s : String) : Option Bool :=
  if s == "true" || s == "True" || s == "TRUE" then some true
  else if s == "false" || s == "False" || s == "FALSE" then some false
  else none

def ofPlain? (s : String) : Option Datum :=
  let cs := s.toList
  let ofFloat : Datum :=
    if isZeroPadded cs then .text s
    else match readFloat? cs with
      | some bits => .float bits
      | none => .text s
  if Yaml.isNullText s then some .null
  else match truth? s, readInt? cs with
    | some b, _ => some (.bool b)
    | none, none => some ofFloat
    | none, some i =>
      if fitsSigned i || fitsUnsigned i then some (.int i)
      else if -(pow2 127 : Int) ≤ i ∧ i < pow2 128 then none
      else some ofFloat

def tagName (name : String) : String :=
  match name.toList with
  | '!' :: c :: rest => .ofList (c :: rest)
  | _ => name

def ofScalar? (tag : Option NodeTag) (s : String) (plain : Bool) : Option Datum :=
  let untagged := if plain then ofPlain? s else some (.text s)
  match tag with
  | none | some .garbled => untagged
  | some (.named name) => untagged.map (.tagged (tagName name))
  | some .null => if Yaml.isNullWord s then some .null else none
  | some .bool => (truth? s).map .bool
  | some .int => ((readInt? s.toList).filter fun i => fitsSigned i || fitsUnsigned i).map .int
  | some .float => (readFloat? s.toList).map .float
  | some .other => some (.text s)

def withTag (tag : Option NodeTag) (d : Datum) : Datum :=
  match tag with
  | some (.named name) => tagged (tagName name) d
  | _ => d

def hasRepeatedKey : List (Datum × Datum) → Bool
  | [] => false
  | (k, _) :: rest => rest.any (fun e => same e.1 k) || hasRepeatedKey rest

/-- Readings that may follow only so many references more. -/
abbrev Bounded := StateT Nat Option

def follow (v : Yaml.View) : Bounded Yaml := fun left =>
  if v.isReference then
    match left with
    | 0 => none
    | left + 1 => some (v.head, left)
  else some (v.head, left)

def ofNode (inner : Option (Yaml.View → Bounded Datum)) (v : Yaml.View) : Bounded Datum := do
  match ← follow v with
  | .scalar tag s plain => liftM (ofScalar? tag s plain)
  | .sequence tag ys =>
    let inner ← liftM inner
    return withTag tag (sequence (← ys.mapM fun y => inner (v.sub y)))
  | .mapping tag ys =>
    let inner ← liftM inner
    let entries ← ys.mapM fun (k, y) => do return (← inner (v.sub k), ← inner (v.sub y))
    if hasRepeatedKey entries then failure else return withTag tag (mapping entries)
  | _ => failure

def ofYaml (room : Nat) : Yaml.View → Bounded Datum :=
  match room with
  | 0 => ofNode none
  | room + 1 => ofNode (some (ofYaml room))

def maxDepth : Nat := 128

def parse (text : String) : Option Datum :=
  (Yaml.parse text).bind fun v => ((ofYaml maxDepth v).run v.node.maxJumps).map (·.1)

end Datum

end SoapWrap
