import SoapWrap.Metadata.Index
import SoapWrap.Service.Descriptor
import SoapWrap.Synthesis.Error

/-!
The service interface that an entry of the index describes. Parameter types are not resolved
here; thrown types are, as their payload has to be known.
-/

namespace SoapWrap

namespace Index

def tagValue? (tag : Option Tag) (key : String) : Option String := tag.bind (·.value? key)

def extractParam (operation : String) (p : ParamInfo) : Except SynthesisError Parameter :=
  let tag := p.tag? TagName.webParam
  let described (d : Direction) : Parameter := {
    declaredType := p.declaredType
    declaredName := p.name
    direction := d
    wireName := tagValue? tag "name"
    targetNamespace := tagValue? tag "targetNamespace"
    header := (tagValue? tag "header").any (Text.eqIgnoreAsciiCase · "true")
    tags := p.tags }
  match tagValue? tag "mode" with
  | none => .ok (described .in)
  | some mode =>
    match Direction.ofText? mode with
    | some d => .ok (described d)
    | none => .error (.malformedOperation operation (.unknownMode mode))

def extractThrown (index : Index) (operation : String) (t : TypeExpr) :
    Except SynthesisError Thrown :=
  match index.get? t.base with
  | none => .error (.unresolvedType operation t)
  | some info =>
    let payload := info.faultInfo.getD t
    if index.resolves payload then
      .ok ⟨t, tagValue? (info.tag? TagName.webFault) "name", payload⟩
    else .error (.unresolvedType operation payload)

def extractOperation (index : Index) (m : MethodInfo) : Except SynthesisError Operation :=
  match mapAll (extractParam m.name) m.params with
  | .error e => .error e
  | .ok params =>
    match mapAll (index.extractThrown m.name) (firstOccurrences m.throws) with
    | .error e => .error e
    | .ok exceptions =>
      let tag := m.tag? TagName.webResult
      .ok {
        methodName := m.name
        operationName := tagValue? (m.tag? TagName.webMethod) "operationName"
        params := params
        result := {
          declaredType := m.returns
          wireName := tagValue? tag "name"
          targetNamespace := tagValue? tag "targetNamespace"
          tags := m.tags }
        exceptions := exceptions }

def extract (index : Index) (name : String) : Except SynthesisError ServiceInterface :=
  match index.get? name with
  | none => .error (.unknownInterface name)
  | some info =>
    match mapAll index.extractOperation info.methods with
    | .error e => .error e
    | .ok operations =>
      .ok ⟨name, tagValue? (info.tag? TagName.webService) "targetNamespace", operations⟩

end Index

end SoapWrap
