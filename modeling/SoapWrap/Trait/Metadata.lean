import SoapWrap.Trait.Service

namespace SoapWrap.Trait

def pathWords (names : List String) : List String :=
  List.intercalate NamePath.colons (names.map fun n => if n.isEmpty then [] else [n])

def coreModule : String := "soapgen_core"

def coreWords (names : List String) : List String := pathWords ("" :: coreModule :: names)

def standardWords (names : List String) : List String := pathWords ("" :: "std" :: names)

def parens (words : List String) : List String := Delimiter.paren.surround words

def braces (words : List String) : List String := Delimiter.brace.surround words

def call (method : String) (args : List String) : List String := "." :: method :: parens args

def dotted : List String := call "replace" [quote "::", ",", quote "."]

def typeName (t : SigType) : List String :=
  standardWords ["any", "type_name", ""] ++ "<" :: t.words ++ ">" :: parens [] ++ dotted

def MappedType.code : MappedType → List String
  | void => coreWords ["types", "TypeRef", "void"] ++ parens []
  | scalar s => coreWords ["types", "TypeRef", "named"] ++ parens [quote s.text]
  | container c arg =>
    coreWords ["types", "TypeRef", "generic"] ++
      parens (quote c.text :: "," :: standardWords ["vec"] ++
        "!" :: Delimiter.bracket.surround arg.code)
  | user t => coreWords ["types", "TypeRef", "named"] ++ parens (typeName t)

def ElementTag.code (t : ElementTag) : List String :=
  coreWords ["meta", "ElementTag", "new"] ++ parens [quote t.name] ++
    t.values.flatMap fun (k, v) => call "with" [quote k, ",", quote v]

def tagCalls (tags : List ElementTag) : List String :=
  tags.flatMap fun t => call "with_tag" t.code

def ServiceParam.code (p : ServiceParam) : List String :=
  call "param" (coreWords ["meta", "ParamInfo", "new"] ++ parens p.type.code ++
    (match p.name with
      | some n => call "named" [quote n]
      | none => []) ++ tagCalls p.tags)

def ServiceMethod.code (m : ServiceMethod) : List String :=
  call "with_method" (coreWords ["meta", "MethodInfo", "new"] ++ parens [quote m.name] ++
    m.params.flatMap (·.code) ++ call "returns" m.returns.code ++
    (match m.throws with
      | some t => call "throws" t.code
      | none => []) ++ tagCalls m.tags)

namespace Service

def functionName (s : Service) (suffix : String) : String := Naming.snake s.name ++ suffix

def infoName (s : Service) : String := s.functionName "_info"

def metadataName (s : Service) : String := s.functionName "_metadata"

def thrownTypes (s : Service) : List SigType :=
  s.methods.flatMap fun m => m.throws.toList.flatMap (·.userTypes)

def payloadTypes (s : Service) : List SigType :=
  s.methods.flatMap fun m => m.params.flatMap (·.type.userTypes) ++ m.returns.userTypes

def infoBody (s : Service) : List String :=
  ["let", "__name", "="] ++ standardWords ["format"] ++
    "!" :: parens (quote "\x7b\x7d.\x7b\x7d" :: "," ::
      standardWords ["module_path"] ++ "!" :: parens [] ++ dotted ++ [",", quote s.name]) ++
    ";" :: coreWords ["meta", "TypeInfo", "interface"] ++ parens ["__name"] ++
    tagCalls [s.tag] ++ s.methods.flatMap (·.code)

def pushCode (constructor : String) (t : SigType) : List String :=
  braces (["let", "__name", "="] ++ typeName t ++ [";", "if", "!", "__types"] ++ call "iter" [] ++
    call "any" ["|", "t", "|", "t", ".", "name", "=", "=", "__name"] ++
    braces ("__types" :: call "push" (coreWords ["meta", "TypeInfo", constructor] ++
      parens ["__name"]) ++ [";"]))

def metadataBody (s : Service) : List String :=
  ["let", "mut", "__types", "="] ++ standardWords ["vec"] ++
    "!" :: Delimiter.bracket.surround (s.infoName :: parens []) ++
    ";" :: s.thrownTypes.flatMap (pushCode "exception") ++
    s.payloadTypes.flatMap (pushCode "class") ++ ["__types"]

def documentationWords (line : String) : List String :=
  "#" :: Delimiter.bracket.surround ["doc", "=", "r\" " ++ line ++ "\""]

def code (s : Service) (visibility : List String) : List String :=
  documentationWords "Metadata for this service interface, named after its module path." ++
    visibility ++ "fn" :: s.infoName :: parens [] ++ "-" :: ">" ::
    coreWords ["meta", "TypeInfo"] ++ braces s.infoBody ++
    documentationWords "The service interface followed by every user type its signatures" ++
    documentationWords "reference: thrown types as exceptions, the rest as classes." ++
    visibility ++ "fn" :: s.metadataName :: parens [] ++ "-" :: ">" ::
    standardWords ["vec", "Vec"] ++ "<" :: coreWords ["meta", "TypeInfo"] ++
    ">" :: braces s.metadataBody

end Service

end SoapWrap.Trait
