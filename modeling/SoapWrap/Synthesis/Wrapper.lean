import SoapWrap.Code.Basic
import SoapWrap.Metadata.Index
import SoapWrap.Service.Descriptor
import SoapWrap.Synthesis.Error
import SoapWrap.Synthesis.Settings

/-!
Wrappers: the request and response types of an operation, one field for each parameter that
travels in them. A wrapper is refused when a type does not resolve or two fields share an
identifier or a getter.
-/

namespace SoapWrap

structure WrapperField where
  name : String
  wireName : String
  xmlNamespace : String
  declaredType : TypeExpr
  getter : String
  setter : String
  getterTags : List Tag
  deriving DecidableEq

structure Wrapper where
  name : String
  package : String
  xmlNamespace : String
  elementName : String
  kind : WrapperKind
  fields : List WrapperField
  deriving DecidableEq

namespace Wrapper

def qualifiedName (w : Wrapper) : String := Text.qualify w.package w.name

def getters (w : Wrapper) : List String := w.fields.map (·.getter)

def setters (w : Wrapper) : List String := w.fields.map (·.setter)

def fingerprint (w : Wrapper) : String :=
  .ofList (Nat.toDigits 10 w.fields.length ++ ':' :: w.fields.flatMap fun f =>
    f.getter.toList ++ '/' :: f.declaredType.render ++ [','])

def returnNothing : Op := .return none

def getterDef (f : WrapperField) : MethodDef :=
  { MethodDef.ofInstance f.getter [] f.declaredType
      [.readField 0 .this f.name, .return (some (.local 0))] with
    tags := f.getterTags }

def setterDef (f : WrapperField) : MethodDef :=
  .ofInstance f.setter [f.declaredType] .void
    [.writeField .this f.name (.param 0), returnNothing]

def typeDef (w : Wrapper) : TypeDef :=
  let elementTag (name : String) :=
    ((Tag.ofName name).add "name" w.elementName).add "namespace" w.xmlNamespace
  { name := w.qualifiedName
    tags := [elementTag TagName.xmlRootElement, elementTag TagName.xmlType]
    fields := w.fields.map fun f => ⟨f.name, f.declaredType⟩
    methods := .ofConstructor [] [returnNothing] ::
      w.fields.flatMap fun f => [getterDef f, setterDef f] }

end Wrapper

structure Scope where
  index : Index
  package : String
  xmlNamespace : String
  settings : Settings

namespace Scope

structure Element where
  wireName : String
  xmlNamespace : String
  declaredType : TypeExpr
  tags : List Tag

def getterTags (e : Element) : List Tag :=
  let carried := e.tags.filter fun t => TagName.schemaTags.contains t.name
  if carried.isEmpty then
    [((Tag.ofName TagName.xmlElement).add "name" e.wireName).add "namespace" e.xmlNamespace]
  else carried

def field (e : Element) : WrapperField where
  name := Naming.fieldIdentifier e.wireName
  wireName := e.wireName
  xmlNamespace := e.xmlNamespace
  declaredType := e.declaredType
  getter := Naming.getterIdentifier e.wireName
  setter := Naming.setterIdentifier e.wireName
  getterTags := getterTags e

def paramElement (position : Nat) (p : Parameter) : Element where
  wireName := p.wireName.getD (p.declaredName.getD ("arg" ++ toString position))
  xmlNamespace := Naming.effective p.targetNamespace ""
  declaredType := p.declaredType
  tags := p.tags

def resultElement (r : Result) : Element where
  wireName := r.effectiveName
  xmlNamespace := r.effectiveNamespace
  declaredType := r.declaredType
  tags := r.tags

def paramElements (position : Nat) : List Parameter → List Element
  | [] => []
  | p :: rest => paramElement position p :: paramElements (position + 1) rest

def travels (kind : WrapperKind) (p : Parameter) : Bool :=
  match kind with
  | .request => p.direction.inRequest
  | .response => p.direction.inResponse

def elements (kind : WrapperKind) (op : Operation) : List Element :=
  let params := paramElements 0 (op.params.filter (travels kind))
  match kind with
  | .request => params
  | .response => if op.result.isVoid then params else resultElement op.result :: params

def repeatedField? (names getters : List String) : List WrapperField → Option WrapperField
  | [] => none
  | f :: rest =>
    if f.name ∈ names ∨ f.getter ∈ getters then some f
    else repeatedField? (f.name :: names) (f.getter :: getters) rest

def wrapperName (s : Scope) (op : Operation) (kind : WrapperKind) : String :=
  Naming.capitalize op.methodName ++
    match kind with
    | .request => s.settings.requestSuffix
    | .response => s.settings.responseSuffix

/-- The root element of a wrapper, which no setting changes. -/
def elementName (op : Operation) : WrapperKind → String
  | .request => op.effectiveName
  | .response => op.effectiveName ++ "Response"

def wrapper (s : Scope) (op : Operation) (kind : WrapperKind) : Except SynthesisError Wrapper :=
  let elements := elements kind op
  match elements.find? fun e => !s.index.resolves e.declaredType with
  | some e => .error (.unresolvedType op.methodName e.declaredType)
  | none =>
    let name := s.wrapperName op kind
    let fields := elements.map field
    match repeatedField? [] [] fields with
    | some f => .error (.malformedOperation op.methodName (.repeatedField name f.name))
    | none => .ok {
        name, kind, fields
        package := s.package
        xmlNamespace := s.xmlNamespace
        elementName := elementName op kind }

end Scope

end SoapWrap
