import SoapWrap.Command.Basic
import SoapWrap.Metadata.Load
import SoapWrap.Synthesis.Interface

namespace SoapWrap.Command.Inspect

def interfaces (index : Index) : Option String → List String
  | some name => [name]
  | none => (index.webServices.filter (·.kind = .interface)).map (·.name)

def outputs (s : Synthesizer) (session : Session) :
    List String → List InterfaceOutput × Option SynthesisError
  | [] => ([], none)
  | name :: rest =>
    match s.interfaceOutput session name with
    | (.error e, _) => ([], some e)
    | (.ok o, session) =>
      let (os, e) := outputs s session rest
      (o :: os, e)

def fieldLine (f : WrapperField) : String :=
  "      " ++ padEnd 20 f.name ++ " " ++ padEnd 24 f.declaredType.text ++ " " ++ f.wireName

def bundleLines (label : String) (b : Bundle) : List String :=
  ("    " ++ padEnd 9 label ++ " " ++ b.wrapper.qualifiedName ++ " <" ++ b.wrapper.elementName ++
      ">") ::
    (b.wrapper.fields.map fieldLine ++
      ["      adapter " ++ b.adapter.name ++ "  " ++ b.wrapper.fingerprint])

def operationLines (o : OperationOutput) : List String :=
  "" :: ("  " ++ o.operation) :: (bundleLines "request" o.request ++
    bundleLines "response" o.response)

def faultLine (f : Fault) : String := "  fault " ++ f.name ++ " <" ++ f.payloadType.text ++ ">"

def interfaceLines (o : InterfaceOutput) : List String :=
  ("Interface " ++ o.interface ++ " (" ++ o.xmlNamespace ++ ")") :: ("  package " ++ o.package) ::
    (o.operations.flatMap operationLines ++
      (if o.faults.isEmpty then [] else "" :: o.faults.map faultLine) ++
      o.skipped.map (fun name => "  ! " ++ name ++ " skipped (overload)") ++ [""])

def ofIndex (index : Index) (asked : Option String) : Outcome :=
  match interfaces index asked with
  | [] => { lines := ["No service interfaces found."] }
  | names =>
    let (os, e) := outputs (.ofIndex index {}) {} names
    { lines := os.flatMap interfaceLines, failure := e.map .synthesis }

def run [Monad m] (files : FileAccess m) (path : String) (asked : Option String) : m Outcome := do
  match Index.ofFile path (← files.read path) with
  | .error e => return .ofFailure (.index e)
  | .ok index => return ofIndex index asked

end SoapWrap.Command.Inspect
