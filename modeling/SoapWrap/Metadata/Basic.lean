import SoapWrap.Dict
import SoapWrap.TypeExpr.Basic

namespace SoapWrap

structure Tag where
  name : String
  values : Dict String
  deriving DecidableEq

namespace Tag

def ofName (name : String) : Tag := ⟨name, .empty⟩

def add (t : Tag) (key value : String) : Tag := { t with values := t.values.insert key value }

/-- A member; the empty text counts as absent. -/
def value? (t : Tag) (key : String) : Option String :=
  (t.values.get? key).filter (· ≠ "")

def find? (tags : List Tag) (name : String) : Option Tag := tags.find? (·.name = name)

end Tag

namespace TagName

def webService : String := "WebService"
def webMethod : String := "WebMethod"
def webParam : String := "WebParam"
def webResult : String := "WebResult"
def webFault : String := "WebFault"
def xmlElement : String := "XmlElement"
def xmlRootElement : String := "XmlRootElement"
def xmlType : String := "XmlType"
def xmlSchema : String := "XmlSchema"

def schemaTags : List String := [
  "XmlList", "XmlAttachmentRef", "XmlJavaTypeAdapter", "XmlMimeType", "XmlElement",
  "XmlElementWrapper"]

end TagName

inductive Kind where
  | interface
  | plain
  | exception
  | list
  | holder
  | shapeless
  deriving DecidableEq

def Kind.all : List Kind := [.interface, .plain, .exception, .list, .holder, .shapeless]

def Kind.text : Kind → String
  | interface => "interface"
  | plain => "class"
  | exception => "exception"
  | list => "list"
  | holder => "holder"
  | shapeless => "opaque"

def Kind.ofText? (s : String) : Option Kind := Kind.all.find? (·.text = s)

structure ParamInfo where
  declaredType : TypeExpr
  name : Option String := none
  tags : List Tag := []
  deriving DecidableEq

structure MethodInfo where
  name : String
  params : List ParamInfo := []
  returns : TypeExpr := .void
  throws : List TypeExpr := []
  tags : List Tag := []
  deriving DecidableEq

structure TypeInfo where
  name : String
  kind : Kind := .plain
  tags : List Tag := []
  methods : List MethodInfo := []
  faultInfo : Option TypeExpr := none
  deriving DecidableEq

def ParamInfo.tag? (p : ParamInfo) (name : String) : Option Tag := Tag.find? p.tags name

def MethodInfo.tag? (m : MethodInfo) (name : String) : Option Tag := Tag.find? m.tags name

namespace TypeInfo

def tag? (t : TypeInfo) (name : String) : Option Tag := Tag.find? t.tags name

def package (t : TypeInfo) : String := Text.packageName t.name

def simpleName (t : TypeInfo) : String := Text.simpleName t.name

def isWebService (t : TypeInfo) : Bool := (t.tag? TagName.webService).isSome

end TypeInfo

end SoapWrap
