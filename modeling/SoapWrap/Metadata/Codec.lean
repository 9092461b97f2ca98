import SoapWrap.Document
import SoapWrap.Json.Reader
import SoapWrap.Metadata.Index

namespace SoapWrap

def listMember (key : String) (write : α → Json) (items : List α) : List (String × Json) :=
  if items.isEmpty then [] else [(key, .arr (items.map write))]

def optionMember (key : String) (write : α → Json) : Option α → List (String × Json)
  | none => []
  | some a => [(key, write a)]

def TypeExpr.toJson (t : TypeExpr) : Json := .str t.text

def Tag.toJson (t : Tag) : Json :=
  .obj (("name", .str t.name) ::
    if t.values.isEmpty then []
    else [("values", .obj (t.values.entries.map fun (k, v) => (k, .str v)))])

def ParamInfo.toJson (p : ParamInfo) : Json :=
  .obj (("type", p.declaredType.toJson) ::
    (optionMember "name" .str p.name ++ listMember "tags" Tag.toJson p.tags))

def MethodInfo.toJson (m : MethodInfo) : Json :=
  .obj (("name", .str m.name) ::
    (listMember "params" ParamInfo.toJson m.params ++ ("returns", m.returns.toJson) ::
      (listMember "throws" TypeExpr.toJson m.throws ++ listMember "tags" Tag.toJson m.tags)))

def TypeInfo.toJson (t : TypeInfo) : Json :=
  .obj (("name", .str t.name) :: ("kind", .str t.kind.text) ::
    (listMember "tags" Tag.toJson t.tags ++ listMember "methods" MethodInfo.toJson t.methods ++
      optionMember "fault_info" TypeExpr.toJson t.faultInfo))

section Reading

open Document

variable {δ : Type} [Document δ]

def TypeExpr.ofDocument? (d : δ) : Option TypeExpr :=
  (text? d).bind fun s => (TypeExpr.parse s).toOption

def readTexts (d : δ) : Option (Dict String) := do
  let entries ← entries? d
  let entries ← entries.mapM fun (k, v) => (text? v).map (k, ·)
  return .ofList entries

def Tag.ofDocument? (d : δ) : Option Tag := do
  let f ← record? ["name", "values"] d
  return {
    name := ← required text? (f "name")
    values := ← orDefault .empty readTexts (f "values") }

def Kind.ofDocument? (d : δ) : Option Kind := (choice? d).bind Kind.ofText?

def ParamInfo.ofDocument? (d : δ) : Option ParamInfo := do
  let f ← record? ["type", "name", "tags"] d
  return {
    declaredType := ← required TypeExpr.ofDocument? (f "type")
    name := ← optional text? (f "name")
    tags := ← orDefault [] (list Tag.ofDocument?) (f "tags") }

def MethodInfo.ofDocument? (d : δ) : Option MethodInfo := do
  let f ← record? ["name", "params", "returns", "throws", "tags"] d
  return {
    name := ← required text? (f "name")
    params := ← orDefault [] (list ParamInfo.ofDocument?) (f "params")
    returns := ← orDefault .void TypeExpr.ofDocument? (f "returns")
    throws := ← orDefault [] (list TypeExpr.ofDocument?) (f "throws")
    tags := ← orDefault [] (list Tag.ofDocument?) (f "tags") }

def TypeInfo.ofDocument? (d : δ) : Option TypeInfo := do
  let f ← record? ["name", "kind", "tags", "methods", "fault_info"] d
  return {
    name := ← required text? (f "name")
    kind := ← orDefault .plain Kind.ofDocument? (f "kind")
    tags := ← orDefault [] (list Tag.ofDocument?) (f "tags")
    methods := ← orDefault [] (list MethodInfo.ofDocument?) (f "methods")
    faultInfo := ← optional TypeExpr.ofDocument? (f "fault_info") }

def Index.ofDocument (d : δ) : Except IndexError Index :=
  match list TypeInfo.ofDocument? d with
  | some types => ofTypes types
  | none => .error .malformed

def Index.ofText (read : String → Option δ) (text : String) : Except IndexError Index :=
  match read text with
  | some d => ofDocument d
  | none => .error .malformed

end Reading

def Index.toJson (index : Index) : Json := .arr (index.types.map TypeInfo.toJson)

def Index.ofJsonText (text : String) : Except IndexError Index := ofText Json.parse text

end SoapWrap
