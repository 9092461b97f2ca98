import SoapWrap.Service.Extract
import SoapWrap.Synthesis.Adapter
import SoapWrap.Synthesis.Factory
import SoapWrap.Synthesis.Fault
import SoapWrap.Synthesis.Session

/-!
The types generated for one service interface. Every step returns the session next to its result,
so that what a failing interface has claimed stays claimed.
-/

namespace SoapWrap

structure PackageInfo where
  name : String
  package : String
  xmlNamespace : String
  deriving DecidableEq

def PackageInfo.ofPackage (package xmlNamespace : String) : PackageInfo :=
  ⟨package ++ ".package-info", package, xmlNamespace⟩

def PackageInfo.typeDef (p : PackageInfo) : TypeDef where
  name := p.name
  tags := [((Tag.ofName TagName.xmlSchema).add "namespace" p.xmlNamespace).add
    "elementFormDefault" "QUALIFIED"]

structure Bundle where
  wrapper : Wrapper
  adapter : Adapter
  factory : Factory
  deriving DecidableEq

def Bundle.typeDefs (b : Bundle) : List TypeDef :=
  [b.wrapper.typeDef, b.adapter.typeDef, b.factory.typeDef]

structure OperationOutput where
  operation : String
  request : Bundle
  response : Bundle
  deriving DecidableEq

def OperationOutput.typeDefs (o : OperationOutput) : List TypeDef :=
  o.request.typeDefs ++ o.response.typeDefs

structure InterfaceOutput where
  interface : String
  package : String
  xmlNamespace : String
  packageInfo : Option PackageInfo
  operations : List OperationOutput
  faults : List Fault
  /-- The methods whose wrapper was there already. -/
  skipped : List String
  deriving DecidableEq

namespace InterfaceOutput

def operation? (o : InterfaceOutput) (name : String) : Option OperationOutput :=
  o.operations.find? (·.operation = name)

def typeDefs (o : InterfaceOutput) : List TypeDef :=
  o.packageInfo.toList.map (·.typeDef) ++ o.operations.flatMap (·.typeDefs) ++
    o.faults.map (·.typeDef)

def companions (o : InterfaceOutput) : List String :=
  firstOccurrences (o.operations.flatMap fun op =>
    op.request.adapter.objectFactory.toList ++ op.response.adapter.objectFactory.toList)

end InterfaceOutput

structure Synthesizer where
  index : Index
  settings : Settings := {}
  hasCompanion : String → Bool

namespace Synthesizer

def ofIndex (index : Index) (settings : Settings) : Synthesizer :=
  ⟨index, settings, index.contains⟩

def bundle (s : Synthesizer) (names : NameRegistry) (w : Wrapper) :
    Except SynthesisError (Bundle × NameRegistry) :=
  match Adapter.ofWrapper s.index s.hasCompanion s.settings names w with
  | .error e => .error e
  | .ok (adapter, names) => .ok (⟨w, adapter, Factory.ofWrapper s.settings w⟩, names)

/-- The bundles of an operation; the name of the first adapter stays taken if the second fails. -/
def operationOutput (s : Synthesizer) (scope : Scope) (names : NameRegistry) (op : Operation) :
    Except SynthesisError OperationOutput × NameRegistry :=
  match scope.wrapper op .request, scope.wrapper op .response with
  | .error e, _ => (.error e, names)
  | _, .error e => (.error e, names)
  | .ok request, .ok response =>
    match s.bundle names request with
    | .error e => (.error e, names)
    | .ok (request, names) =>
      match s.bundle names response with
      | .error e => (.error e, names)
      | .ok (response, names) => (.ok ⟨op.methodName, request, response⟩, names)

structure Contribution where
  faults : List Fault
  output : Option OperationOutput

def qualifiedWrapper (scope : Scope) (op : Operation) (kind : WrapperKind) : String :=
  scope.package ++ "." ++ scope.wrapperName op kind

def isOverload (session : Session) (requestName : String) : Bool :=
  match session.claim? requestName with
  | some claim => claim.kind = .request
  | none => false

def contribute (s : Synthesizer) (scope : Scope) (session : Session) (op : Operation) :
    Except SynthesisError Contribution × Session :=
  let (faults, registry) := Fault.ofExceptions scope.package s.settings session.faults op.exceptions
  let session := { session with faults := registry }
  let requestName := qualifiedWrapper scope op .request
  if isOverload session requestName then (.ok ⟨faults, none⟩, session)
  else match session.claimWrapper requestName op.methodName .request with
    | .error e => (.error e, session)
    | .ok session =>
      match session.claimWrapper (qualifiedWrapper scope op .response) op.methodName .response with
      | .error e => (.error e, session)
      | .ok session =>
        match s.operationOutput scope session.names op with
        | (.error e, names) => (.error e, { session with names })
        | (.ok output, names) => (.ok ⟨faults, some output⟩, { session with names })

def contributeAll (s : Synthesizer) (scope : Scope) (session : Session) :
    List Operation → Except SynthesisError (List (String × Contribution)) × Session
  | [] => (.ok [], session)
  | op :: rest =>
    match s.contribute scope session op with
    | (.error e, session) => (.error e, session)
    | (.ok c, session) =>
      match s.contributeAll scope session rest with
      | (.error e, session) => (.error e, session)
      | (.ok cs, session) => (.ok ((op.methodName, c) :: cs), session)

def markPackage (session : Session) (package xmlNamespace : String) : Option PackageInfo × Session :=
  if package ∈ session.packages then (none, session)
  else (some (.ofPackage package xmlNamespace),
    { session with packages := package :: session.packages })

def interfaceOutput (s : Synthesizer) (session : Session) (name : String) :
    Except SynthesisError InterfaceOutput × Session :=
  match s.index.extract name with
  | .error e => (.error e, session)
  | .ok service =>
    let package := s.settings.generatedPackage service.package
    let xmlNamespace := service.effectiveNamespace
    let (packageInfo, session) := markPackage session package xmlNamespace
    let scope : Scope := ⟨s.index, package, xmlNamespace, s.settings⟩
    match s.contributeAll scope session service.operations with
    | (.error e, session) => (.error e, session)
    | (.ok cs, session) =>
      (.ok {
        interface := name
        package, xmlNamespace, packageInfo
        operations := cs.filterMap fun (_, c) => c.output
        faults := cs.flatMap fun (_, c) => c.faults
        skipped := cs.filterMap fun (m, c) => if c.output.isNone then some m else none }, session)

end Synthesizer

end SoapWrap
