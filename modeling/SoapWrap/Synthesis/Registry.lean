namespace SoapWrap

structure NameRegistry where
  taken : List String := []
  deriving DecidableEq

namespace NameRegistry

def candidate (base suffix : String) (n : Nat) : String := base ++ suffix ++ toString n

/-- The least positive number whose candidate is free; among the first `size + 1` there is one. -/
def freeNumber (r : NameRegistry) (base suffix : String) : Nat :=
  ((List.range' 1 (r.taken.length + 1)).find? fun n =>
    !r.taken.contains (candidate base suffix n)).getD 0

def allocate (r : NameRegistry) (base suffix : String) : String × NameRegistry :=
  let name := candidate base suffix (r.freeNumber base suffix)
  (name, ⟨name :: r.taken⟩)

def contains (r : NameRegistry) (name : String) : Bool := r.taken.contains name

def size (r : NameRegistry) : Nat := r.taken.length

def clear (_ : NameRegistry) : NameRegistry := {}

end NameRegistry

structure FaultRegistry where
  claimed : List String := []
  deriving DecidableEq

namespace FaultRegistry

def contains (r : FaultRegistry) (name : String) : Bool := r.claimed.contains name

def claim (r : FaultRegistry) (name : String) : Bool × FaultRegistry :=
  if r.contains name then (false, r) else (true, ⟨name :: r.claimed⟩)

end FaultRegistry

end SoapWrap
