import SoapWrap.Decimal.Binary64
import SoapWrap.Dict

/-!
Values of the machine. Lists and objects are references into a heap, so that a value that is
stored twice is shared; equality compares what they hold.
-/

namespace SoapWrap

structure QName where
  xmlNamespace : String
  local_ : String
  deriving DecidableEq

def QName.text (q : QName) : String :=
  if q.xmlNamespace = "" then q.local_ else "\x7b" ++ q.xmlNamespace ++ "\x7d" ++ q.local_

inductive ValueKind where
  | null
  | bool
  | int
  | float
  | string
  | list
  | object
  | holder
  deriving DecidableEq

def ValueKind.text : ValueKind → String
  | null => "null"
  | bool => "bool"
  | int => "int"
  | float => "float"
  | string => "string"
  | list => "list"
  | object => "object"
  | holder => "holder"

inductive Value where
  | null
  | bool (b : Bool)
  | int (i : Int)
  | float (bits : UInt64)
  | text (s : String)
  | list (ref : Nat)
  | object (ref : Nat)
  | holder (name : QName) (payload : Value)
  deriving DecidableEq

namespace Value

def kind : Value → ValueKind
  | null => .null
  | bool _ => .bool
  | int _ => .int
  | float _ => .float
  | text _ => .string
  | list _ => .list
  | object _ => .object
  | holder _ _ => .holder

def isNull : Value → Bool
  | null => true
  | _ => false

def size : Value → Nat
  | holder _ payload => payload.size + 1
  | _ => 1

def sizeAll (vs : List Value) : Nat := vs.foldl (fun n v => n + v.size) 0

end Value

structure Object where
  type : String
  fields : Dict Value
  deriving DecidableEq

structure Heap where
  lists : List (List Value) := []
  objects : List Object := []
  deriving DecidableEq

namespace Heap

def newList (h : Heap) (items : List Value) : Value × Heap :=
  (.list h.lists.length, { h with lists := h.lists ++ [items] })

def newObject (h : Heap) (o : Object) : Value × Heap :=
  (.object h.objects.length, { h with objects := h.objects ++ [o] })

def items (h : Heap) (ref : Nat) : List Value := h.lists[ref]?.getD []

def object (h : Heap) (ref : Nat) : Object := h.objects[ref]?.getD ⟨"", .empty⟩

def setItems (h : Heap) (ref : Nat) (items : List Value) : Heap :=
  { h with lists := h.lists.set ref items }

def setObject (h : Heap) (ref : Nat) (o : Object) : Heap :=
  { h with objects := h.objects.set ref o }

def asList? (h : Heap) : Value → Option (List Value)
  | .list ref => some (h.items ref)
  | _ => none

def typeName? (h : Heap) : Value → Option String
  | .object ref => some (h.object ref).type
  | _ => none

def field? (h : Heap) (v : Value) (name : String) : Option Value :=
  match v with
  | .object ref => (h.object ref).fields.get? name
  | _ => none

def size (h : Heap) : Nat :=
  (h.lists.foldl (fun n items => n + Value.sizeAll items + 1) 0) +
    (h.objects.foldl (fun n o => n + Value.sizeAll (o.fields.entries.map (·.2)) + 1) 0)

/-- Compares pairs up to the first that differs; none where a comparison does not end. -/
def allEqual (compare : α → α → Option Bool) : List (α × α) → Option Bool
  | [] => some true
  | (a, b) :: rest =>
    match compare a b with
    | some true => allEqual compare rest
    | answer => answer

def equal? (h : Heap) : (fuel : Nat) → Value → Value → Option Bool
  | 0, _, _ => none
  | fuel + 1, a, b =>
    match a, b with
    | .null, .null => some true
    | .bool a, .bool b => some (a == b)
    | .int a, .int b => some (a == b)
    | .float a, .float b => some (Binary64.equal a b)
    | .text a, .text b => some (a == b)
    | .list a, .list b =>
      let as := h.items a
      let bs := h.items b
      if as.length = bs.length then allEqual (h.equal? fuel) (as.zip bs)
      else some false
    | .object a, .object b =>
      let a := h.object a
      let b := h.object b
      if a.type = b.type ∧ a.fields.keys = b.fields.keys then
        allEqual (h.equal? fuel) ((a.fields.entries.map (·.2)).zip (b.fields.entries.map (·.2)))
      else some false
    | .holder n a, .holder m b => if n = m then h.equal? fuel a b else some false
    | _, _ => some false

def equalFuel (h : Heap) (a b : Value) : Nat :=
  let n := h.size + a.size + b.size + 1
  n * n

end Heap

end SoapWrap
