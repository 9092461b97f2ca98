import SoapWrap.Machine.Builtin
import SoapWrap.Synthesis.Error

/-!
The machine: loaded types, and external ones that are known by name alone. Methods are found along
the chain of supertypes; their bodies run over frames of local slots.
-/

namespace SoapWrap

structure Machine where
  types : List TypeDef := []
  externals : List String := []

structure Frame where
  this : Value
  params : List Value
  locals : List (Nat × Value) := []

inductive Flow where
  | next (frame : Frame)
  | returned (value : Value)

namespace Machine

def get? (m : Machine) (name : String) : Option TypeDef := m.types.find? (·.name = name)

def contains (m : Machine) (name : String) : Bool := (m.get? name).isSome

def emit (d : TypeDef) (m : Machine) : Except EmitError Machine :=
  if m.contains d.name then .error (.alreadyLoaded d.name)
  else .ok { m with types := m.types ++ [d] }

def declareExternal (m : Machine) (name : String) : Machine :=
  { m with externals := name :: m.externals }

def typesWithCapability (m : Machine) (capability : String) : List String :=
  ((m.types.filter (·.hasCapability capability)).map (·.name)).mergeSort (· ≤ ·)

def require (m : Machine) (name : String) : Exec TypeDef :=
  match m.get? name with
  | some d => pure d
  | none => .fail (.unknownType name)

/-- How many types of a chain of supertypes are looked at; a longer chain has no end. -/
def chainFuel (m : Machine) : Nat := m.types.length + 1

inductive Lookup where
  | found (method : MethodDef)
  | message
  | missing
  | endless

def lookup (m : Machine) (method : String) : (fuel : Nat) → String → Lookup
  | 0, _ => .endless
  | fuel + 1, type =>
    if type = Intrinsic.exceptionType then
      if method = Intrinsic.getMessage then .message else .missing
    else match m.get? type with
      | none => .missing
      | some d =>
        match d.instanceMethod? method with
        | some found => .found found
        | none =>
          match d.supertype with
          | some parent => m.lookup method fuel parent
          | none => .missing

def nullFields (fields : List FieldDef) (d : Dict Value) : Dict Value :=
  fields.foldl (fun d f => d.insert f.name .null) d

def fieldsOf (m : Machine) : (fuel : Nat) → TypeDef → Option (Dict Value)
  | 0, _ => none
  | fuel + 1, d =>
    let inherited : Option (Dict Value) :=
      match d.supertype with
      | none => some .empty
      | some parent =>
        if parent = Intrinsic.exceptionType then
          some (Dict.empty.insert Intrinsic.exceptionMessage .null)
        else match m.get? parent with
          | none => some .empty
          | some parent => m.fieldsOf fuel parent
    inherited.map (nullFields d.fields)

end Machine

def wordCount : Nat := 0x10000000000000000

/-- A slot takes 24 octets, and a signed word counts those of a frame. -/
def slotCount : Nat := 0x7fffffffffffffff / 24

def Constant.value : Constant → Value
  | null => .null
  | int i => .int i
  | text s => .text s

namespace Frame

def set (f : Frame) (slot : Nat) (v : Value) : Exec Frame :=
  if slot < slotCount then pure { f with locals := (slot, v) :: f.locals }
  else .exceed .word

def eval (f : Frame) : Operand → Exec Value
  | .this => pure f.this
  | .param i =>
    match f.params[i]? with
    | some v => pure v
    | none =>
      if i + 1 < wordCount then .fail (.arityMismatch "<param>" (i + 1) f.params.length)
      else .exceed .word
  | .local slot =>
    match f.locals.lookup slot with
    | some v => pure v
    | none => .fail (.unsetLocal slot)
  | .const c => pure c.value

def evalAll (f : Frame) : List Operand → Exec (List Value)
  | [] => pure []
  | a :: rest => do
    let v ← f.eval a
    let vs ← f.evalAll rest
    pure (v :: vs)

end Frame

namespace Machine

abbrev Caller := MethodDef → Value → List Value → Exec Value

def instantiateWith (m : Machine) (call : Caller) (type : String) (args : List Value) :
    Exec Value := do
  if type = Intrinsic.listType then Exec.allocate (·.newList [])
  else if m.externals.contains type && !m.contains type then
    Exec.allocate (·.newObject ⟨type, .empty⟩)
  else
    let d ← m.require type
    match m.fieldsOf m.chainFuel d with
    | none => .exceed .depth
    | some fields =>
      let instance_ ← Exec.allocate (·.newObject ⟨type, fields⟩)
      match d.constructor? with
      | some c => let _ ← call c instance_ args
      | none =>
        if !args.isEmpty then
          Exec.fail (.arityMismatch (type ++ "." ++ Intrinsic.constructor) 0 args.length)
      pure instance_

def invokeWith (m : Machine) (call : Caller) (target : Value) (method : String)
    (args : List Value) : Exec Value := do
  let ref ← objectRef target method
  let type ← Exec.peek fun h => (h.object ref).type
  match m.lookup method m.chainFuel type with
  | .found d => call d target args
  | .message => Exec.peek fun h => (h.field? target Intrinsic.exceptionMessage).getD .null
  | .missing => .fail (.noSuchMethod type method)
  | .endless => .exceed .depth

def chainConstructor (m : Machine) (call : Caller) (target : Value) (owner : String)
    (args : List Value) : Exec Value := do
  if owner = Intrinsic.exceptionType then
    writeField target Intrinsic.exceptionMessage (args.headD .null)
    pure .null
  else
    let d ← m.require owner
    match d.constructor? with
    | some c => call c target args
    | none => pure .null

def dispatch (m : Machine) (call : Caller) (target : Value) (method : MethodRef)
    (args : List Value) : Exec Value :=
  if method.owner = Intrinsic.listType then listMethod target method.name args
  else if method.owner = Intrinsic.holderType then holderMethod target method.name
  else if method.name = Intrinsic.constructor then m.chainConstructor call target method.owner args
  else m.invokeWith call target method.name args

mutual
def step (m : Machine) (call : Caller) (f : Frame) : Op → Exec Flow
  | .allocate dst type args => do
    let args ← f.evalAll args
    let v ← m.instantiateWith call type args
    let f ← f.set dst v
    pure (.next f)
  | .readField dst object field => do
    let object ← f.eval object
    let v ← readField object field
    let f ← f.set dst v
    pure (.next f)
  | .writeField object field value => do
    let object ← f.eval object
    let value ← f.eval value
    writeField object field value
    pure (.next f)
  | .invoke dst target method args => do
    let target ← f.eval target
    let args ← f.evalAll args
    let v ← m.dispatch call target method args
    match dst with
    | some dst =>
      let f ← f.set dst v
      pure (.next f)
    | none => pure (.next f)
  | .branchOnNull value then_ otherwise => do
    let v ← f.eval value
    if v.isNull then m.steps call f then_ else m.steps call f otherwise
  | .return value => do
    match value with
    | some operand =>
      let v ← f.eval operand
      pure (.returned v)
    | none => pure (.returned .null)
def steps (m : Machine) (call : Caller) (f : Frame) : List Op → Exec Flow
  | [] => pure (.next f)
  | op :: rest => do
    match ← m.step call f op with
    | .next f => m.steps call f rest
    | .returned v => pure (.returned v)
end

def call (m : Machine) : (fuel : Nat) → Caller
  | 0 => fun _ _ _ => .exceed .depth
  | fuel + 1 => fun method this args => do
    if args.length ≠ method.params.length then
      .fail (.arityMismatch method.name method.params.length args.length)
    else
      match ← m.steps (m.call fuel) { this, params := args } method.body with
      | .returned v => pure v
      | .next _ => pure .null

def callDepth : Nat := 10000

def instantiate (m : Machine) (type : String) (args : List Value) : Exec Value :=
  m.instantiateWith (m.call callDepth) type args

def invoke (m : Machine) (target : Value) (method : String) (args : List Value) : Exec Value :=
  m.invokeWith (m.call callDepth) target method args

end Machine

end SoapWrap
