import SoapWrap.Metadata.Basic
import SoapWrap.Naming.Identifier

namespace SoapWrap

inductive Direction where
  | «in»
  | out
  | inOut
  deriving DecidableEq

namespace Direction

def ofText? (s : String) : Option Direction :=
  let s := Text.asciiLowerString s
  if s = "in" then some .in
  else if s = "out" then some .out
  else if s = "inout" ∨ s = "in_out" then some .inOut
  else none

def text : Direction → String
  | .in => "In"
  | out => "Out"
  | inOut => "InOut"

def inRequest (d : Direction) : Bool := d ≠ .out

def inResponse (d : Direction) : Bool := d ≠ .in

end Direction

structure Parameter where
  declaredType : TypeExpr
  declaredName : Option String := none
  direction : Direction := .in
  wireName : Option String := none
  targetNamespace : Option String := none
  header : Bool := false
  tags : List Tag := []
  deriving DecidableEq

structure Result where
  declaredType : TypeExpr
  wireName : Option String := none
  targetNamespace : Option String := none
  tags : List Tag := []
  deriving DecidableEq

namespace Result

def defaultName : String := "return"

def isVoid (r : Result) : Bool := r.declaredType.isVoid

def effectiveName (r : Result) : String := Naming.effective r.wireName defaultName

def effectiveNamespace (r : Result) : String := Naming.effective r.targetNamespace ""

end Result

structure Thrown where
  declaredType : TypeExpr
  faultName : Option String
  payloadType : TypeExpr
  deriving DecidableEq

structure Operation where
  methodName : String
  operationName : Option String := none
  params : List Parameter
  result : Result
  exceptions : List Thrown := []
  deriving DecidableEq

def Operation.effectiveName (op : Operation) : String :=
  Naming.effective op.operationName op.methodName

structure ServiceInterface where
  name : String
  targetNamespace : Option String
  operations : List Operation
  deriving DecidableEq

namespace ServiceInterface

def package (s : ServiceInterface) : String := Text.packageName s.name

def effectiveNamespace (s : ServiceInterface) : String :=
  s.targetNamespace.getD (Naming.deriveNamespace s.package)

end ServiceInterface

end SoapWrap
