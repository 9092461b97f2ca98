import SoapWrap.Config.Value
import SoapWrap.Dict
import SoapWrap.Synthesis.Settings

namespace SoapWrap

structure Config where
  values : Dict ConfigValue := .empty
  profile : String

namespace Config

def emptyProfile : String := "test"

def empty : Config := { profile := emptyProfile }

def keyPart : Datum → String
  | .text s => s
  | d => .ofList d.shown

def childKey (parent part : String) : String :=
  if parent = "" then part else parent ++ "." ++ part

mutual
def bindings (key : String) : Datum → List (String × ConfigValue)
  | .mapping entries => entryBindings key entries
  | d => if key = "" then [] else [(key, .ofDatum d)]
def entryBindings (key : String) : List (Datum × Datum) → List (String × ConfigValue)
  | [] => []
  | (k, v) :: rest => bindings (childKey key (keyPart k)) v ++ entryBindings key rest
end

def insertAll (values : Dict ConfigValue) (bs : List (String × ConfigValue)) : Dict ConfigValue :=
  bs.foldl (fun d b => d.insert b.1 b.2) values

def overlay (values : Dict ConfigValue) (text : String) : Except ConfigError (Dict ConfigValue) :=
  match Datum.parse text with
  | some d => .ok (insertAll values (bindings "" d))
  | none => .error .load

def ofText (text profile : String) : Except ConfigError Config :=
  (overlay .empty text).map (⟨·, profile⟩)

def set (c : Config) (key : String) (v : ConfigValue) : Config :=
  { c with values := c.values.insert key v }

def contains (c : Config) (key : String) : Bool := c.values.contains key

def get (c : Config) (read : ConfigValue.Reading α) (key : String) : Except ConfigError α :=
  match c.values.get? key with
  | some v => read v key
  | none => .error (.notFound key)

/-- The default also stands in for a value that does not read. -/
def getOr (c : Config) (read : ConfigValue.Reading α) (key : String) (default : α) : α :=
  match c.get read key with
  | .ok a => a
  | .error _ => default

def get? (c : Config) (read : ConfigValue.Reading α) (key : String) :
    Except ConfigError (Option α) :=
  match c.get read key with
  | .ok a => .ok (some a)
  | .error (.notFound _) => .ok none
  | .error e => .error e

def getText (c : Config) (key default : String) : Except ConfigError String :=
  (c.get? ConfigValue.readText key).map (·.getD default)

end Config

namespace Settings

def ofConfig (c : Config) : Except ConfigError Settings := do
  let d : Settings := {}
  return {
    packageSuffix := ← c.getText "soapgen.package.suffix" d.packageSuffix
    requestSuffix := ← c.getText "soapgen.request.suffix" d.requestSuffix
    responseSuffix := ← c.getText "soapgen.response.suffix" d.responseSuffix
    adapterSuffix := ← c.getText "soapgen.adapter.suffix" d.adapterSuffix
    factorySuffix := ← c.getText "soapgen.factory.suffix" d.factorySuffix
    faultSuffix := ← c.getText "soapgen.fault.suffix" d.faultSuffix
    companionName := ← c.getText "soapgen.companion.name" d.companionName
    strict := (← c.get? ConfigValue.readBool "soapgen.classification.strict").getD d.strict }

end Settings

end SoapWrap
