import SoapWrap.Naming.Identifier
import SoapWrap.TypeExpr.Basic

namespace SoapWrap

inductive WrapperKind where
  | request
  | response
  deriving DecidableEq

def WrapperKind.text : WrapperKind → String
  | request => "Request"
  | response => "Response"

inductive Malformation where
  | unknownMode (mode : String)
  | repeatedField (wrapper field : String)
  | wrapperCollision (wrapper : String) (kind : WrapperKind) (operation : String)
  deriving DecidableEq

def Malformation.text : Malformation → String
  | unknownMode mode => "unknown parameter mode '" ++ mode ++ "'"
  | repeatedField wrapper field => wrapper ++ " declares field '" ++ field ++ "' twice"
  | wrapperCollision wrapper kind operation =>
    "wrapper '" ++ wrapper ++ "' collides with the " ++ kind.text ++ " wrapper of operation '" ++
      operation ++ "'"

inductive EmitError where
  | emittedTwice (name : String)
  | synthesizedTwice (name : String)
  | alreadyLoaded (name : String)
  deriving DecidableEq

def EmitError.text : EmitError → String
  | emittedTwice name => "type '" ++ name ++ "' emitted twice"
  | synthesizedTwice name => "type '" ++ name ++ "' synthesized twice"
  | alreadyLoaded name => "type '" ++ name ++ "' already loaded"

inductive SynthesisError where
  | unresolvedType (operation : String) (type : TypeExpr)
  | malformedOperation (operation : String) (fault : Malformation)
  | unknownInterface (name : String)
  | unknownClassification (type : TypeExpr)
  | emit (e : EmitError)
  deriving DecidableEq

def SynthesisError.message : SynthesisError → String
  | unresolvedType operation type =>
    "Unresolved type '" ++ type.text ++ "' in operation '" ++ operation ++ "'"
  | malformedOperation operation fault =>
    "Malformed operation '" ++ operation ++ "': " ++ fault.text
  | unknownInterface name => "Service interface not found in metadata index: " ++ name
  | unknownClassification type =>
    "Cannot classify type '" ++ type.text ++ "' (strict classification is enabled)"
  | emit e => "Type emission failed: " ++ e.text

end SoapWrap
