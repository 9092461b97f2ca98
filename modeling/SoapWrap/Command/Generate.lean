import SoapWrap.Command.Basic
import SoapWrap.Config.Load
import SoapWrap.Metadata.Load
import SoapWrap.Synthesis.Manifest
import SoapWrap.Synthesis.Pass

namespace SoapWrap.Command.Generate

structure Request where
  index : String
  out : String
  profile : Option String := none
  /-- Wins over the configuration. -/
  strict : Bool := false

structure Moment where
  stamp : String
  shown : String

structure Product where
  profile : String
  report : Report
  manifest : Manifest
  registrar : Registrar

def product (c : Config) (strict : Bool) (path : String) (file : FileText) :
    Except Failure Product := do
  let settings ← (Settings.ofConfig c).mapError .config
  let index ← (Index.ofFile path file).mapError .index
  let settings := { settings with strict := strict || settings.strict }
  let (report, pass) := (Synthesizer.ofIndex index settings).run Manifest.emit {} {}
  let report ← report.mapError .synthesis
  return { profile := c.profile, report, manifest := pass.sink, registrar := pass.registrar }

def Product.reflection (p : Product) (now : Moment) : Json := .obj [
  ("generated_at", .str now.stamp),
  ("profile", .str p.profile),
  ("types", .strings p.registrar.names)]

def typesPath (out : String) : String := joinPath out "types.json"

def reflectionPath (out : String) : String := joinPath out "reflection.json"

def countLine (label : String) (n : Nat) : String := "  " ++ padEnd 14 label ++ " " ++ toString n

def reportLines (r : Report) : List String :=
  [countLine "interfaces" r.interfaces, countLine "operations" r.operations,
    countLine "wrappers" r.wrappers, countLine "faults" r.faults,
    countLine "types" r.typesEmitted] ++
  r.skippedServices.map (fun name => "  ! " ++ name ++ " is not an interface, skipped") ++
  r.skippedOperations.map (fun name => "  ! overload " ++ name ++ " skipped")

def summary (r : Report) (out : String) (now : Moment) : List String :=
  ("soapgen " ++ now.shown) :: (reportLines r ++
    ["✓ Wrote " ++ typesPath out, "✓ Wrote " ++ reflectionPath out])

def Product.write [Monad m] (p : Product) (files : FileAccess m) (out : String) (now : Moment) :
    m Bool := do
  if !(← files.makeDirectory out) then return false
  if !(← files.write (typesPath out) p.manifest.text) then return false
  files.write (reflectionPath out) (p.reflection now).pretty

def run [Monad m] (files : FileAccess m) (env : Environment) (now : Moment) (r : Request) :
    m Outcome := do
  match ← Config.load files env "." r.profile with
  | .error e => return .ofFailure (.config e)
  | .ok c =>
    match product c r.strict r.index (← files.read r.index) with
    | .error e => return .ofFailure e
    | .ok p =>
      if ← p.write files r.out now then return { lines := summary p.report r.out now }
      else return .ofFailure .output

end SoapWrap.Command.Generate
