import SoapWrap.Code.Basic
import SoapWrap.Service.Descriptor
import SoapWrap.Synthesis.Registry
import SoapWrap.Synthesis.Settings

namespace SoapWrap

structure Fault where
  name : String
  faultName : String
  payloadType : TypeExpr
  declaredType : TypeExpr
  deriving DecidableEq

def Thrown.resolvedName (t : Thrown) (settings : Settings) : String :=
  t.faultName.getD (t.declaredType.simpleName ++ settings.faultSuffix)

namespace Fault

def payloadField : String := "faultInfo"
def payloadGetter : String := "getFaultInfo"

def ofThrown (package : String) (settings : Settings) (t : Thrown) : Fault :=
  let faultName := t.resolvedName settings
  ⟨Text.qualify package faultName, faultName, t.payloadType, t.declaredType⟩

def ofExceptions (package : String) (settings : Settings) (faults : FaultRegistry) :
    List Thrown → List Fault × FaultRegistry
  | [] => ([], faults)
  | t :: rest =>
    let (isNew, faults) := faults.claim (t.resolvedName settings)
    let (more, faults) := ofExceptions package settings faults rest
    (if isNew then ofThrown package settings t :: more else more, faults)

def typeDef (f : Fault) : TypeDef where
  name := f.name
  supertype := some Intrinsic.exceptionType
  fields := [⟨payloadField, f.payloadType⟩]
  methods := [
    .ofConstructor [.named "string", f.payloadType] [
      .invoke none .this ⟨Intrinsic.exceptionType, Intrinsic.constructor⟩ [.param 0],
      .writeField .this payloadField (.param 1),
      .return none],
    .ofInstance payloadGetter [] f.payloadType [
      .readField 0 .this payloadField,
      .return (some (.local 0))]]

end Fault

end SoapWrap
