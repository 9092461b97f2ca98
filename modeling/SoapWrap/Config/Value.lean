import SoapWrap.Decimal.Shortest
import SoapWrap.Text.Class
import SoapWrap.Text.Shown
import SoapWrap.Yaml.Datum

namespace SoapWrap

inductive Expected where
  | text
  | int
  | bool
  deriving DecidableEq

def Expected.name : Expected → String
  | text => "String"
  | int => "i64"
  | bool => "bool"

inductive ConfigError where
  | notFound (key : String)
  | typeMismatch (key : String) (expected : Expected)
  | load
  deriving DecidableEq

def ConfigError.message? : ConfigError → Option String
  | notFound key => some ("Config key not found: " ++ key)
  | typeMismatch key expected =>
    some ("Config type mismatch for '" ++ key ++ "': expected " ++ expected.name)
  | load => none

inductive ConfigValue where
  | text (s : String)
  | int (i : Int)
  | float (bits : UInt64)
  | bool (b : Bool)
  | null
  | list (items : List ConfigValue)

namespace Datum

def intText (i : Int) : List Char :=
  if i < 0 then '-' :: Nat.toDigits 10 i.natAbs else Nat.toDigits 10 i.natAbs

/-- A key of a mapping, shown without the name of its kind where it is a scalar. -/
def keyText (other : List Char) : Datum → List Char
  | bool b => (toString b).toList
  | int i => intText i
  | float bits => Binary64.markedText bits
  | text s => Text.showQuoted s
  | _ => other

mutual
def shown : Datum → List Char
  | null => "Null".toList
  | bool b => "Bool(".toList ++ (toString b).toList ++ [')']
  | int i => "Number(".toList ++ intText i ++ [')']
  | float bits => "Number(".toList ++ Binary64.markedText bits ++ [')']
  | text s => "String(".toList ++ Text.showQuoted s ++ [')']
  | sequence items => "Sequence [".toList ++ shownItems true items ++ [']']
  | mapping entries => "Mapping \x7b".toList ++ shownEntries true entries ++ ['}']
  | tagged tag d =>
    "TaggedValue \x7b tag: !".toList ++ tag.toList ++ ", value: ".toList ++ d.shown ++ " \x7d".toList
def shownItems (first : Bool) : List Datum → List Char
  | [] => []
  | d :: rest => (if first then [] else [',', ' ']) ++ d.shown ++ shownItems false rest
def shownEntries (first : Bool) : List (Datum × Datum) → List Char
  | [] => []
  | (k, v) :: rest =>
    (if first then [] else [',', ' ']) ++ keyText k.shown k ++ ':' :: ' ' :: (v.shown ++
      shownEntries false rest)
end

end Datum

namespace ConfigValue

instance : Inhabited ConfigValue := ⟨null⟩

mutual
def ofDatum : Datum → ConfigValue
  | .null => null
  | .bool b => bool b
  | .int i => if fitsSigned i then int i else float (Binary64.ofNat i.toNat)
  | .float bits => float bits
  | .text s => text s
  | .sequence items => list (ofData items)
  | .mapping entries => text (.ofList (Datum.mapping entries).shown)
  | .tagged tag d => text (.ofList (Datum.tagged tag d).shown)
def ofData : List Datum → List ConfigValue
  | [] => []
  | d :: rest => ofDatum d :: ofData rest
end

abbrev Reading (α : Type) := ConfigValue → (key : String) → Except ConfigError α

def readText : Reading String := fun v key =>
  match v with
  | text s => .ok s
  | int i => .ok (.ofList (Datum.intText i))
  | float bits => .ok (.ofList (Binary64.plainText bits))
  | bool b => .ok (toString b)
  | null => .ok ""
  | list _ => .error (.typeMismatch key .text)

def readInt : Reading Int := fun v key =>
  match v with
  | int i => .ok i
  | text s =>
    match Decimal.readInt64? s.toList with
    | some i => .ok i
    | none => .error (.typeMismatch key .int)
  | _ => .error (.typeMismatch key .int)

def truth? (s : String) : Option Bool :=
  let s := Text.lowerString s
  if s = "true" ∨ s = "1" ∨ s = "yes" then some true
  else if s = "false" ∨ s = "0" ∨ s = "no" then some false
  else none

def readBool : Reading Bool := fun v key =>
  match v with
  | bool b => .ok b
  | text s =>
    match truth? s with
    | some b => .ok b
    | none => .error (.typeMismatch key .bool)
  | _ => .error (.typeMismatch key .bool)

def readOption (read : Reading α) : Reading (Option α) := fun v key =>
  match v with
  | null => .ok none
  | v => (read v key).map some

def itemKey (key : String) (i : Nat) : String := key ++ "[" ++ toString i ++ "]"

def readItems (read : Reading α) (key : String) (i : Nat) :
    List ConfigValue → Except ConfigError (List α)
  | [] => .ok []
  | v :: rest =>
    match read v (itemKey key i) with
    | .error e => .error e
    | .ok a =>
      match readItems read key (i + 1) rest with
      | .error e => .error e
      | .ok as => .ok (a :: as)

def readList (read : Reading α) : Reading (List α) := fun v key =>
  match v with
  | list items => readItems read key 0 items
  | v => (read v key).map ([·])

end ConfigValue

end SoapWrap
