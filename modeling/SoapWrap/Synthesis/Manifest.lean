import SoapWrap.Code.Codec
import SoapWrap.Synthesis.Error

namespace SoapWrap

structure Manifest where
  types : List TypeDef := []
  deriving DecidableEq

namespace Manifest

def get? (m : Manifest) (name : String) : Option TypeDef := m.types.find? (·.name = name)

def contains (m : Manifest) (name : String) : Bool := (m.get? name).isSome

def emit (d : TypeDef) (m : Manifest) : Except EmitError Manifest :=
  if m.contains d.name then .error (.emittedTwice d.name) else .ok ⟨m.types ++ [d]⟩

def toJson (m : Manifest) : Json := .arr (m.types.map TypeDef.toJson)

def text (m : Manifest) : String := m.toJson.pretty

def maxDepth : Nat := 127

def parse (text : String) : Option (List TypeDef) := do
  let j ← Json.parse text
  if j.depth ≤ maxDepth then Document.list TypeDef.ofJson? j else none

end Manifest

end SoapWrap
