import SoapWrap.Text.Dotted

namespace SoapWrap

structure Settings where
  packageSuffix : String := "jaxws_asm"
  requestSuffix : String := ""
  responseSuffix : String := "Response"
  /-- Stands between the name of a wrapper and the counter of its adapter. -/
  adapterSuffix : String := "_Adapter"
  factorySuffix : String := "Factory"
  faultSuffix : String := "_Exception"
  companionName : String := "ObjectFactory"
  strict : Bool := false
  deriving DecidableEq

namespace Settings

def generatedPackage (s : Settings) (interfacePackage : String) : String :=
  if s.packageSuffix = "" then interfacePackage
  else Text.qualify interfacePackage s.packageSuffix

def companionFor (s : Settings) (package : String) : String :=
  Text.qualify package s.companionName

end Settings

end SoapWrap
