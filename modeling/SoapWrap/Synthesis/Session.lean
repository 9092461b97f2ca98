import SoapWrap.Synthesis.Error
import SoapWrap.Synthesis.Registry

namespace SoapWrap

structure WrapperClaim where
  operation : String
  kind : WrapperKind
  deriving DecidableEq

structure Session where
  names : NameRegistry := {}
  faults : FaultRegistry := {}
  /-- The wrapper names that are generated, the latest first. -/
  wrappers : List (String × WrapperClaim) := []
  packages : List String := []
  deriving DecidableEq

namespace Session

def reset (_ : Session) : Session := {}

def claim? (s : Session) (wrapper : String) : Option WrapperClaim := s.wrappers.lookup wrapper

def addClaim (s : Session) (wrapper : String) (claim : WrapperClaim) : Session :=
  { s with wrappers := (wrapper, claim) :: s.wrappers }

def claimWrapper (s : Session) (wrapper operation : String) (kind : WrapperKind) :
    Except SynthesisError Session :=
  match s.claim? wrapper with
  | some c => .error (.malformedOperation operation (.wrapperCollision wrapper c.kind c.operation))
  | none => .ok (s.addClaim wrapper ⟨operation, kind⟩)

end Session

end SoapWrap
