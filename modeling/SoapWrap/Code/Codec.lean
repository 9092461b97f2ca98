import SoapWrap.Code.Basic
import SoapWrap.Decimal.Binary64
import SoapWrap.Json.Printer
import SoapWrap.Metadata.Codec

namespace SoapWrap

def Constant.toJson : Constant → Json
  | null => .str "Null"
  | int i => .obj [("Int", .int i)]
  | text s => .obj [("Str", .str s)]

def Operand.toJson : Operand → Json
  | this => .str "This"
  | param i => .obj [("Param", .nat i)]
  | «local» slot => .obj [("Local", .nat slot)]
  | const c => .obj [("Const", c.toJson)]

def MethodRef.toJson (m : MethodRef) : Json :=
  .obj [("owner", .str m.owner), ("name", .str m.name)]

def operandsJson (args : List Operand) : Json := .arr (args.map Operand.toJson)

mutual
def Op.toJson : Op → Json
  | .allocate dst type args =>
    .obj [("op", .str "allocate"), ("dst", .nat dst), ("ty", .str type),
      ("args", operandsJson args)]
  | .readField dst object field =>
    .obj [("op", .str "read_field"), ("dst", .nat dst), ("object", object.toJson),
      ("field", .str field)]
  | .writeField object field value =>
    .obj [("op", .str "write_field"), ("object", object.toJson), ("field", .str field),
      ("value", value.toJson)]
  | .invoke dst target method args =>
    .obj [("op", .str "invoke"), ("dst", .ofOption .nat dst), ("target", target.toJson),
      ("method", method.toJson), ("args", operandsJson args)]
  | .branchOnNull value then_ otherwise =>
    .obj [("op", .str "branch_on_null"), ("value", value.toJson), ("then", .arr (opsJson then_)),
      ("otherwise", .arr (opsJson otherwise))]
  | .return value => .obj [("op", .str "return"), ("value", .ofOption Operand.toJson value)]
def opsJson : List Op → List Json
  | [] => []
  | op :: rest => op.toJson :: opsJson rest
end

def FieldDef.toJson (f : FieldDef) : Json :=
  .obj [("name", .str f.name), ("type", f.type.toJson)]

def MethodKind.text : MethodKind → String
  | constructor => "constructor"
  | onInstance => "instance"

def MethodDef.toJson (m : MethodDef) : Json :=
  .obj (("name", .str m.name) :: ("kind", .str m.kind.text) ::
    (listMember "params" TypeExpr.toJson m.params ++ ("returns", m.returns.toJson) ::
      (listMember "tags" Tag.toJson m.tags ++ [("body", .arr (opsJson m.body))])))

def TypeDef.toJson (d : TypeDef) : Json :=
  .obj (("name", .str d.name) ::
    (optionMember "supertype" .str d.supertype ++ listMember "capabilities" .str d.capabilities ++
      listMember "tags" Tag.toJson d.tags ++ listMember "fields" FieldDef.toJson d.fields ++
      listMember "methods" MethodDef.toJson d.methods))

section Reading

open Document

def readIndex : Json → Option Nat
  | .int i => if fitsUnsigned i then some i.toNat else none
  | _ => none

def isUnit : Json → Bool
  | .null => true
  | .obj [] => true
  | _ => false

def Constant.ofJson? : Json → Option Constant
  | .str "Null" => some .null
  | .obj [("Null", v)] => if isUnit v then some .null else none
  | .obj [("Int", .int i)] => if fitsSigned i then some (.int i) else none
  | .obj [("Str", .str s)] => some (.text s)
  | _ => none

def Operand.ofJson? : Json → Option Operand
  | .str "This" => some .this
  | .obj [("This", v)] => if isUnit v then some .this else none
  | .obj [("Param", v)] => (readIndex v).map .param
  | .obj [("Local", v)] => (readIndex v).map .local
  | .obj [("Const", v)] => (Constant.ofJson? v).map .const
  | _ => none

def MethodRef.ofJson? (j : Json) : Option MethodRef := do
  let f ← record? ["owner", "name"] j
  return { owner := ← required text? (f "owner"), name := ← required text? (f "name") }

/-- The operations, in the order of their numbers. -/
def opNames : List String :=
  ["allocate", "read_field", "write_field", "invoke", "branch_on_null", "return"]

/-- The name of an operation; inside a branch its number does as well. -/
def readOpName (inBranch : Bool) : Json → Option String
  | .str s => some s
  | .int i => if inBranch ∧ 0 ≤ i then opNames[i.toNat]? else none
  | _ => none

def splitOp (inBranch : Bool) : Json → Option (String × Layout Json)
  | .obj members =>
    match members.filter (·.1 = "op") with
    | [(_, tag)] =>
      (readOpName inBranch tag).map (·, .keyed (members.filter (·.1 ≠ "op")))
    | _ => none
  | .arr (tag :: items) => (readOpName inBranch tag).map (·, .positional items)
  | _ => none

/-- An optional field that may be missing from a keyed record only. -/
def omissible (read : Json → Option α) : Layout Json → Option Json → Option (Option α)
  | .positional _, none => none
  | _, v => optional read v

def Op.ofJson? : (fuel : Nat) → (inBranch : Bool) → Json → Option Op
  | 0, _, _ => none
  | fuel + 1, inBranch, j => do
    let (name, layout) ← splitOp inBranch j
    match name with
    | "allocate" => do
      let f ← layout.fields? ["dst", "ty", "args"]
      return .allocate (← required readIndex (f "dst")) (← required text? (f "ty"))
        (← required (list Operand.ofJson?) (f "args"))
    | "read_field" => do
      let f ← layout.fields? ["dst", "object", "field"]
      return .readField (← required readIndex (f "dst")) (← required Operand.ofJson? (f "object"))
        (← required text? (f "field"))
    | "write_field" => do
      let f ← layout.fields? ["object", "field", "value"]
      return .writeField (← required Operand.ofJson? (f "object")) (← required text? (f "field"))
        (← required Operand.ofJson? (f "value"))
    | "invoke" => do
      let f ← layout.fields? ["dst", "target", "method", "args"]
      return .invoke (← omissible readIndex layout (f "dst"))
        (← required Operand.ofJson? (f "target")) (← required MethodRef.ofJson? (f "method"))
        (← required (list Operand.ofJson?) (f "args"))
    | "branch_on_null" => do
      let f ← layout.fields? ["value", "then", "otherwise"]
      return .branchOnNull (← required Operand.ofJson? (f "value"))
        (← required (list (Op.ofJson? fuel true)) (f "then"))
        (← required (list (Op.ofJson? fuel true)) (f "otherwise"))
    | "return" => do
      let f ← layout.fields? ["value"]
      return .return (← omissible Operand.ofJson? layout (f "value"))
    | _ => none

def FieldDef.ofJson? (j : Json) : Option FieldDef := do
  let f ← record? ["name", "type"] j
  return { name := ← required text? (f "name"), type := ← required TypeExpr.ofDocument? (f "type") }

def MethodKind.ofJson? (j : Json) : Option MethodKind :=
  match choice? j with
  | some "constructor" => some .constructor
  | some "instance" => some .onInstance
  | _ => none

def MethodDef.ofJson? (j : Json) : Option MethodDef := do
  let f ← record? ["name", "kind", "params", "returns", "tags", "body"] j
  return {
    name := ← required text? (f "name")
    kind := ← required MethodKind.ofJson? (f "kind")
    params := ← orDefault [] (list TypeExpr.ofDocument?) (f "params")
    returns := ← required TypeExpr.ofDocument? (f "returns")
    tags := ← orDefault [] (list Tag.ofDocument?) (f "tags")
    body := ← required (list (Op.ofJson? (j.depth + 1) false)) (f "body") }

def TypeDef.ofJson? (j : Json) : Option TypeDef := do
  let f ← record? ["name", "supertype", "capabilities", "tags", "fields", "methods"] j
  return {
    name := ← required text? (f "name")
    supertype := ← optional text? (f "supertype")
    capabilities := ← orDefault [] (list text?) (f "capabilities")
    tags := ← orDefault [] (list Tag.ofDocument?) (f "tags")
    fields := ← orDefault [] (list FieldDef.ofJson?) (f "fields")
    methods := ← orDefault [] (list MethodDef.ofJson?) (f "methods") }

end Reading

end SoapWrap
