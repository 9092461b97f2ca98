import SoapWrap.Config.Basic
import SoapWrap.Config.EnvFile
import SoapWrap.Files.Basic

/-!
Layered configurations, from the lowest layer to the highest: a base document, the document of the
profile, and environment variables, some of which come from files. The environment names the
profile; without a name there, the caller does.
-/

namespace SoapWrap

namespace Config

def profileVariable : String := "SOAPGEN_PROFILE"

def variablePrefix : String := "SOAPGEN_"

def defaultProfile : String := "dev"

def activeProfile (env : Environment) (asked : Option String) : String :=
  (env.lookup profileVariable).getD (asked.getD defaultProfile)

def variableKey? (name : String) : Option String :=
  if variablePrefix.toList.isPrefixOf name.toList ∧ name ≠ profileVariable then
    some (.ofList ((Text.lower name.toList).map fun c => if c = '_' then '.' else c))
  else none

def variableBindings (env : Environment) : List (String × ConfigValue) :=
  env.filterMap fun (name, value) => (variableKey? name).map (·, .text value)

def overlayFile (values : Dict ConfigValue) : FileText → Except ConfigError (Dict ConfigValue)
  | .absent => .ok values
  | .text s => overlay values s
  | .unreadable => .error .load

def addVariables (env : Environment) : FileText → Environment
  | .text s => EnvFile.addTo env s
  | _ => env

structure Layers where
  base : FileText := .absent
  profile : FileText := .absent
  baseVariables : FileText := .absent
  profileVariables : FileText := .absent

def ofLayers (layers : Layers) (env : Environment) (profile : String) :
    Except ConfigError Config := do
  let values ← overlayFile .empty layers.base
  let values ← overlayFile values layers.profile
  let env := addVariables (addVariables env layers.baseVariables) layers.profileVariables
  return { values := insertAll values (variableBindings env), profile }

def load [Monad m] (files : FileAccess m) (env : Environment) (directory : String)
    (asked : Option String) : m (Except ConfigError Config) := do
  let profile := activeProfile env asked
  let base ← files.read (joinPath directory "soapgen.yaml")
  let overlay ← files.read (joinPath directory ("soapgen-" ++ profile ++ ".yaml"))
  let baseVariables ← files.read (joinPath directory ".env")
  let profileVariables ← files.read (joinPath directory (".env." ++ profile))
  return ofLayers { base, profile := overlay, baseVariables, profileVariables } env profile

end Config

end SoapWrap
