import SoapWrap.Trait.SigType

namespace SoapWrap.Trait

inductive Rejection where
  | genericTrait
  | unknownServiceKey
  | unknownKey (allowed : List String)
  | noKeyValue
  | noSimpleKey
  | noTagName
  | noTagForm
  | unsupportedLiteral
  | noIdentifier
  | noLiteralOrIdentifier
  | unsupportedType
  | innerResult
  | noErrorType
  | noSingleArgument
  deriving DecidableEq

def Rejection.message : Rejection → String
  | genericTrait => "#[web_service] traits cannot be generic"
  | unknownServiceKey => "expected \x60target_namespace = \"...\"\x60 or \x60name = \"...\"\x60"
  | unknownKey allowed => "unknown key, expected one of: " ++ ", ".intercalate allowed
  | noKeyValue => "expected \x60key = value\x60"
  | noSimpleKey => "expected a simple key"
  | noTagName => "expected a tag name"
  | noTagForm => "expected #[tag(Name)] or #[tag(Name, key = value, ...)]"
  | unsupportedLiteral => "unsupported literal"
  | noIdentifier => "expected an identifier"
  | noLiteralOrIdentifier => "expected a literal or identifier"
  | unsupportedType => "unsupported type in #[web_service] signature"
  | innerResult => "\x60Result\x60 is only supported as the outermost return type"
  | noErrorType => "expected \x60Result<T, E>\x60 with an explicit error type"
  | noSingleArgument => "expected exactly one generic type argument"

inductive Scalar where
  | string
  | boolean
  | byte
  | short
  | int
  | long
  | float
  | double
  deriving DecidableEq

def Scalar.text : Scalar → String
  | string => "string"
  | boolean => "boolean"
  | byte => "byte"
  | short => "short"
  | int => "int"
  | long => "long"
  | float => "float"
  | double => "double"

def Scalar.ofName? (name : String) : Option Scalar :=
  if name = "String" ∨ name = "str" ∨ name = "char" then some string
  else if name = "bool" then some boolean
  else if name = "i8" ∨ name = "u8" then some byte
  else if name = "i16" ∨ name = "u16" then some short
  else if name = "i32" ∨ name = "u32" then some int
  else if name = "i64" ∨ name = "u64" ∨ name = "isize" ∨ name = "usize" then some long
  else if name = "f32" then some float
  else if name = "f64" then some double
  else none

inductive Container where
  | list
  | holder
  deriving DecidableEq

def Container.text : Container → String
  | list => "list"
  | holder => "holder"

def Container.ofName? (name : String) : Option Container :=
  if name = "Vec" then some .list
  else if name = "ElementHolder" then some .holder
  else none

def isTransparent (name : String) : Bool := name == "Option" || name == "Box"

def resultName : String := "Result"

inductive MappedType where
  | void
  | scalar (s : Scalar)
  | container (c : Container) (arg : MappedType)
  | user (t : SigType)

namespace MappedType

def userTypes : MappedType → List SigType
  | void => []
  | scalar _ => []
  | container _ arg => arg.userTypes
  | user t => [t]

end MappedType

def SigType.map : SigType → Except Rejection MappedType
  | reference _ target => target.map
  | paren _ inner => inner.map
  | unit => .ok .void
  | other _ => .error .unsupportedType
  | path words qualified name args =>
    if qualified then .error .unsupportedType
    else match Scalar.ofName? name with
      | some s => .ok (.scalar s)
      | none =>
        if name = resultName then .error .innerResult
        else match Container.ofName? name, args with
          | some c, [arg] => arg.map.map (.container c)
          | some _, _ => .error .noSingleArgument
          | none, args =>
            if isTransparent name then
              match args with
              | [arg] => arg.map
              | _ => .error .noSingleArgument
            else .ok (.user (.path words qualified name args))

structure Returned where
  returns : MappedType
  throws : Option MappedType

def SigType.mapReturn (t : SigType) : Except Rejection Returned :=
  match t with
  | path _ _ name args =>
    if name = resultName then
      match args with
      | [value, error] => do return ⟨← value.map, some (← error.map)⟩
      | _ => .error .noErrorType
    else return ⟨← t.map, none⟩
  | _ => return ⟨← t.map, none⟩

end SoapWrap.Trait
