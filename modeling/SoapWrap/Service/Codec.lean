import SoapWrap.Metadata.Codec
import SoapWrap.Service.Descriptor

namespace SoapWrap

def textOrNull : Option String → Json := Json.ofOption .str

def tagsJson (tags : List Tag) : Json := .arr (tags.map Tag.toJson)

def Parameter.toJson (p : Parameter) : Json := .obj [
  ("declared_type", p.declaredType.toJson),
  ("declared_name", textOrNull p.declaredName),
  ("direction", .str p.direction.text),
  ("wire_name", textOrNull p.wireName),
  ("namespace", textOrNull p.targetNamespace),
  ("header", .bool p.header),
  ("tags", tagsJson p.tags)]

def Result.toJson (r : Result) : Json := .obj [
  ("declared_type", r.declaredType.toJson),
  ("wire_name", textOrNull r.wireName),
  ("namespace", textOrNull r.targetNamespace),
  ("tags", tagsJson r.tags)]

def Thrown.toJson (t : Thrown) : Json := .obj [
  ("declared_type", t.declaredType.toJson),
  ("fault_name", textOrNull t.faultName),
  ("payload_type", t.payloadType.toJson)]

def Operation.toJson (op : Operation) : Json := .obj [
  ("method_name", .str op.methodName),
  ("operation_name", textOrNull op.operationName),
  ("params", .arr (op.params.map Parameter.toJson)),
  ("result", op.result.toJson),
  ("exceptions", .arr (op.exceptions.map Thrown.toJson))]

def ServiceInterface.toJson (s : ServiceInterface) : Json := .obj [
  ("name", .str s.name),
  ("target_namespace", textOrNull s.targetNamespace),
  ("operations", .arr (s.operations.map Operation.toJson))]

end SoapWrap
