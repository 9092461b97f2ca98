import SoapWrap.Service.Codec
import SoapWrap.Synthesis.Pass

namespace SoapWrap

def Settings.toJson (s : Settings) : Json := .obj [
  ("package_suffix", .str s.packageSuffix),
  ("request_suffix", .str s.requestSuffix),
  ("response_suffix", .str s.responseSuffix),
  ("adapter_suffix", .str s.adapterSuffix),
  ("factory_suffix", .str s.factorySuffix),
  ("fault_suffix", .str s.faultSuffix),
  ("companion_name", .str s.companionName),
  ("strict", .bool s.strict)]

def WrapperField.toJson (f : WrapperField) : Json := .obj [
  ("name", .str f.name),
  ("wire_name", .str f.wireName),
  ("namespace", .str f.xmlNamespace),
  ("declared_type", f.declaredType.toJson),
  ("getter", .str f.getter),
  ("setter", .str f.setter),
  ("getter_tags", tagsJson f.getterTags)]

def Wrapper.toJson (w : Wrapper) : Json := .obj [
  ("name", .str w.name),
  ("package", .str w.package),
  ("namespace", .str w.xmlNamespace),
  ("element_name", .str w.elementName),
  ("kind", .str w.kind.text),
  ("fields", .arr (w.fields.map WrapperField.toJson))]

def ConstructStep.toJson : ConstructStep → Json
  | mergeList getter setter =>
    .obj [("MergeList", .obj [("getter", .str getter), ("setter", .str setter)])]
  | passHolder setter => .obj [("PassHolder", .obj [("setter", .str setter)])]
  | assign setter => .obj [("Assign", .obj [("setter", .str setter)])]

def DecomposeStep.toJson : DecomposeStep → Json
  | read getter => .obj [("Read", .obj [("getter", .str getter)])]
  | unwrapHolder getter => .obj [("UnwrapHolder", .obj [("getter", .str getter)])]

def Adapter.toJson (a : Adapter) : Json := .obj [
  ("name", .str a.name),
  ("wrapper", .str a.wrapper),
  ("fingerprint", .str a.fingerprint),
  ("object_factory", textOrNull a.objectFactory),
  ("construct", .arr (a.construct.map ConstructStep.toJson)),
  ("decompose", .arr (a.decompose.map DecomposeStep.toJson))]

def Factory.toJson (f : Factory) : Json := .obj [
  ("name", .str f.name),
  ("wrapper", .str f.wrapper),
  ("method", .str f.method),
  ("ctor_arity", .nat f.constructorArity)]

def Fault.toJson (f : Fault) : Json := .obj [
  ("name", .str f.name),
  ("fault_name", .str f.faultName),
  ("payload_type", f.payloadType.toJson),
  ("declared_type", f.declaredType.toJson)]

def Bundle.toJson (b : Bundle) : Json := .obj [
  ("wrapper", b.wrapper.toJson),
  ("adapter", b.adapter.toJson),
  ("factory", b.factory.toJson)]

def PackageInfo.toJson (p : PackageInfo) : Json := .obj [
  ("name", .str p.name),
  ("package", .str p.package),
  ("namespace", .str p.xmlNamespace)]

def OperationOutput.toJson (o : OperationOutput) : Json := .obj [
  ("operation", .str o.operation),
  ("request", o.request.toJson),
  ("response", o.response.toJson)]

def InterfaceOutput.toJson (o : InterfaceOutput) : Json := .obj [
  ("interface", .str o.interface),
  ("package", .str o.package),
  ("namespace", .str o.xmlNamespace),
  ("package_info", .ofOption PackageInfo.toJson o.packageInfo),
  ("operations", .arr (o.operations.map OperationOutput.toJson)),
  ("faults", .arr (o.faults.map Fault.toJson)),
  ("skipped", .strings o.skipped)]

def Report.toJson (r : Report) : Json := .obj [
  ("interfaces", .nat r.interfaces),
  ("operations", .nat r.operations),
  ("wrappers", .nat r.wrappers),
  ("faults", .nat r.faults),
  ("types_emitted", .nat r.typesEmitted),
  ("skipped_services", .strings r.skippedServices),
  ("skipped_operations", .strings r.skippedOperations)]

end SoapWrap
