import SoapWrap.Machine.Basic
import SoapWrap.Synthesis.Adapter

namespace SoapWrap

structure AdapterHandle where
  name : String
  instance_ : Value

namespace Machine

def adapter (m : Machine) (name : String) : Exec AdapterHandle := do
  let d ← m.require name
  if d.hasCapability Adapter.capability then
    let instance_ ← m.instantiate name []
    pure ⟨name, instance_⟩
  else .fail (.missingCapability name Adapter.capability)

end Machine

namespace AdapterHandle

def fingerprint (a : AdapterHandle) (m : Machine) : Exec String := do
  match ← m.invoke a.instance_ Adapter.fingerprintMethod [] with
  | .text s => pure s
  | v => .fail (.typeMismatch .string v.kind)

def construct (a : AdapterHandle) (m : Machine) (values : List Value) : Exec Value := do
  let list ← Exec.allocate (·.newList values)
  m.invoke a.instance_ Adapter.constructMethod [list]

def populate (a : AdapterHandle) (m : Machine) (wrapper : Value) (values : List Value) :
    Exec Unit := do
  let list ← Exec.allocate (·.newList values)
  let _ ← m.invoke a.instance_ Adapter.populateMethod [wrapper, list]
  pure ()

def decompose (a : AdapterHandle) (m : Machine) (wrapper : Value) : Exec (List Value) := do
  let parts ← m.invoke a.instance_ Adapter.decomposeMethod [wrapper]
  match ← Exec.peek (·.asList? parts) with
  | some items => pure items
  | none => .fail (.typeMismatch .list parts.kind)

end AdapterHandle

structure FactoryHandle where
  method : String
  instance_ : Value

def startsWith (lead s : List Char) : Bool := s.take lead.length == lead

def MethodDef.isCreator (m : MethodDef) : Bool :=
  m.kind = .onInstance && startsWith "create".toList m.name.toList

def Machine.factory (m : Machine) (name : String) : Exec FactoryHandle := do
  let d ← m.require name
  match d.methods.find? (·.isCreator) with
  | none => .fail (.noSuchMethod name "create*")
  | some method =>
    let instance_ ← m.instantiate name []
    pure ⟨method.name, instance_⟩

def FactoryHandle.create (f : FactoryHandle) (m : Machine) : Exec Value :=
  m.invoke f.instance_ f.method []

end SoapWrap
