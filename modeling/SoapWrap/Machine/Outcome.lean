import SoapWrap.Machine.Value

/-!
Computations over a heap. They end with a value or an error, either way with the heap as it is
then, or they do not end within what the machine has.
-/

namespace SoapWrap

inductive RunError where
  | unknownType (name : String)
  | unknownField (type field : String)
  | noSuchMethod (type method : String)
  | arityMismatch (method : String) (expected got : Nat)
  | nullTarget (method : String)
  | typeMismatch (expected got : ValueKind)
  | indexOutOfBounds (index : Int) (length : Nat)
  | unsetLocal (slot : Nat)
  | missingCapability (type capability : String)
  deriving DecidableEq

def RunError.message : RunError → String
  | unknownType name => "Unknown type: " ++ name
  | unknownField type field => "Type '" ++ type ++ "' has no field '" ++ field ++ "'"
  | noSuchMethod type method => "Type '" ++ type ++ "' has no method '" ++ method ++ "'"
  | arityMismatch method expected got =>
    "Method '" ++ method ++ "' takes " ++ toString expected ++ " argument(s), got " ++ toString got
  | nullTarget method => "Null target for '" ++ method ++ "'"
  | typeMismatch expected got =>
    "Type mismatch: expected " ++ expected.text ++ ", got " ++ got.text
  | indexOutOfBounds index length =>
    "Index " ++ toString index ++ " out of bounds for list of length " ++ toString length
  | unsetLocal slot => "Local slot " ++ toString slot ++ " read before write"
  | missingCapability type capability => "Type '" ++ type ++ "' is not a " ++ capability

inductive Limit where
  /-- The calls or supertypes that are followed. -/
  | depth
  /-- The numbers of a machine word, and what they can address. -/
  | word
  deriving DecidableEq

inductive Outcome (α : Type) where
  | done (a : α) (heap : Heap)
  | failed (e : RunError) (heap : Heap)
  | exceeded (limit : Limit)

def Exec (α : Type) : Type := Heap → Outcome α

namespace Exec

variable {α β : Type}

def pure (a : α) : Exec α := fun h => .done a h

def bind (x : Exec α) (f : α → Exec β) : Exec β := fun h =>
  match x h with
  | .done a h => f a h
  | .failed e h => .failed e h
  | .exceeded l => .exceeded l

instance : Monad Exec where
  pure := pure
  bind := bind

def fail (e : RunError) : Exec α := fun h => .failed e h

def exceed (l : Limit) : Exec α := fun _ => .exceeded l

def peek (f : Heap → α) : Exec α := fun h => .done (f h) h

def modify (f : Heap → Heap) : Exec Unit := fun h => .done () (f h)

def allocate (f : Heap → α × Heap) : Exec α := fun h => .done (f h).1 (f h).2

end Exec

end SoapWrap
