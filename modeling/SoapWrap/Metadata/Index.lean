import SoapWrap.Metadata.Basic
import SoapWrap.Sequence
import SoapWrap.TypeExpr.Parser

/-!
The index of reflected types: entries in order, with distinct names. A type expression resolves
when it and all its arguments are known, and is classified as list-like or holder-like.
-/

namespace SoapWrap

inductive IndexError where
  | unreadableFile
  | malformed
  | duplicateType (name : String)
  | invalidType (e : TypeExpr.Invalid)
  deriving DecidableEq

def IndexError.message? : IndexError → Option String
  | unreadableFile => none
  | malformed => none
  | duplicateType name => some ("Type declared more than once in metadata index: " ++ name)
  | invalidType e => some e.message

/-- The places of names in a list, the first of which is place `i`; an error where a name has a place
already. -/
def recordPlaces (i : Nat) (places : Dict Nat) : List String → Except String (Dict Nat)
  | [] => .ok places
  | name :: rest =>
    if places.contains name then .error name
    else recordPlaces (i + 1) (places.insert name i) rest

structure Index where
  types : List TypeInfo
  places : Dict Nat := (recordPlaces 0 .empty (types.map (·.name))).toOption.getD .empty
  built : recordPlaces 0 .empty (types.map (·.name)) = .ok places

inductive Classification where
  | yes
  | no
  | unknown
  deriving DecidableEq

namespace Index

def empty : Index := ⟨[], .empty, rfl⟩

instance : Inhabited Index := ⟨empty⟩

def ofTypes (types : List TypeInfo) : Except IndexError Index :=
  match h : recordPlaces 0 .empty (types.map (·.name)) with
  | .error name => .error (.duplicateType name)
  | .ok places => .ok ⟨types, places, h⟩

def get? (index : Index) (name : String) : Option TypeInfo :=
  (index.places.get? name).bind (index.types[·]?)

def contains (index : Index) (name : String) : Bool := index.places.contains name

def webServices (index : Index) : List TypeInfo := index.types.filter (·.isWebService)

def knowsBase (index : Index) (t : TypeExpr) : Bool :=
  if t.base = TypeExpr.listBase ∨ t.base = TypeExpr.holderBase then t.args.length == 1
  else t.isVoid || t.isScalar || index.contains t.base

mutual
def resolves (index : Index) : TypeExpr → Bool
  | ⟨base, args⟩ => index.knowsBase ⟨base, args⟩ && index.resolvesAll args
def resolvesAll (index : Index) : List TypeExpr → Bool
  | [] => true
  | a :: rest => index.resolves a && index.resolvesAll rest
end

def classify (index : Index) (builtin : String) (kind : Kind) (t : TypeExpr) : Classification :=
  if t.base = builtin then .yes
  else if t.isScalar || t.isVoid || t.base == TypeExpr.listBase || t.base == TypeExpr.holderBase
  then .no
  else match index.get? t.base with
    | none => .unknown
    | some info =>
      if info.kind = kind then .yes
      else if info.kind = .shapeless then .unknown
      else .no

def classifyList (index : Index) (t : TypeExpr) : Classification :=
  index.classify TypeExpr.listBase .list t

def classifyHolder (index : Index) (t : TypeExpr) : Classification :=
  index.classify TypeExpr.holderBase .holder t

end Index

end SoapWrap
