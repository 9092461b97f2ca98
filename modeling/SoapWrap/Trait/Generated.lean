import SoapWrap.Metadata.Basic
import SoapWrap.Trait.Metadata

/-!
What the generated functions return. The types of the user have their names, with dots between the
parts, only when the functions run, and so does the module that the interface stands in.
-/

namespace SoapWrap.Trait

def MappedType.typeExpr (names : SigType → String) : MappedType → TypeExpr
  | void => .void
  | scalar s => .named s.text
  | container c arg => ⟨c.text, [arg.typeExpr names]⟩
  | user t => .named (names t)

def ElementTag.built (t : ElementTag) : Tag :=
  t.values.foldl (fun tag (key, value) => tag.add key value) (.ofName t.name)

def ServiceParam.info (names : SigType → String) (p : ServiceParam) : ParamInfo where
  declaredType := p.type.typeExpr names
  name := p.name
  tags := p.tags.map (·.built)

def ServiceMethod.info (names : SigType → String) (m : ServiceMethod) : MethodInfo where
  name := m.name
  params := m.params.map (·.info names)
  returns := m.returns.typeExpr names
  throws := m.throws.toList.map (·.typeExpr names)
  tags := m.tags.map (·.built)

def addType (kind : Kind) (types : List TypeInfo) (name : String) : List TypeInfo :=
  if types.any (·.name = name) then types else types ++ [{ name := name, kind := kind }]

def addTypes (names : SigType → String) (kind : Kind) (types : List TypeInfo)
    (ts : List SigType) : List TypeInfo :=
  ts.foldl (fun types t => addType kind types (names t)) types

namespace Service

def interfaceName (s : Service) (modulePath : String) : String := modulePath ++ "." ++ s.name

def info (s : Service) (names : SigType → String) (modulePath : String) : TypeInfo where
  name := s.interfaceName modulePath
  kind := .interface
  tags := [s.tag.built]
  methods := s.methods.map (·.info names)

def metadata (s : Service) (names : SigType → String) (modulePath : String) : List TypeInfo :=
  let types := addTypes names .exception [s.info names modulePath] s.thrownTypes
  addTypes names .plain types s.payloadTypes

end Service

end SoapWrap.Trait
