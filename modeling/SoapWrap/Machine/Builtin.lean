import SoapWrap.Code.Basic
import SoapWrap.Machine.Outcome

namespace SoapWrap.Machine

def objectRef (v : Value) (what : String) : Exec Nat :=
  match v with
  | .object ref => pure ref
  | .null => .fail (.nullTarget what)
  | v => .fail (.typeMismatch .object v.kind)

def readField (v : Value) (field : String) : Exec Value := do
  let ref ← objectRef v field
  let o ← Exec.peek (·.object ref)
  match o.fields.get? field with
  | some value => pure value
  | none => .fail (.unknownField o.type field)

def writeField (v : Value) (field : String) (value : Value) : Exec Unit := do
  let ref ← objectRef v field
  let o ← Exec.peek (·.object ref)
  if o.fields.contains field then
    Exec.modify (·.setObject ref { o with fields := o.fields.insert field value })
  else .fail (.unknownField o.type field)

def getItem (items : List Value) : List Value → Exec Value
  | [] => .fail (.arityMismatch Intrinsic.listGet 1 0)
  | .int i :: _ =>
    match if i < 0 then none else items[i.toNat]? with
    | some v => pure v
    | none => .fail (.indexOutOfBounds i items.length)
  | v :: _ => .fail (.typeMismatch .int v.kind)

def addAll (ref : Nat) : List Value → Exec Value
  | [] | .null :: _ => pure .null
  | .list other :: _ => do
    Exec.modify fun h => h.setItems ref (h.items ref ++ h.items other)
    pure .null
  | v :: _ => .fail (.typeMismatch .list v.kind)

def listMethod (target : Value) (method : String) (args : List Value) : Exec Value :=
  match target with
  | .null => .fail (.nullTarget method)
  | .list ref => do
    if method = Intrinsic.listGet then
      let items ← Exec.peek (·.items ref)
      getItem items args
    else if method = Intrinsic.listAddAll then addAll ref args
    else if method = Intrinsic.listPush then
      Exec.modify fun h => h.setItems ref (h.items ref ++ [args.headD .null])
      pure .null
    else if method = Intrinsic.listLen then
      let items ← Exec.peek (·.items ref)
      pure (.int items.length)
    else .fail (.noSuchMethod Intrinsic.listType method)
  | v => .fail (.typeMismatch .list v.kind)

def holderMethod (target : Value) (method : String) : Exec Value :=
  match target with
  | .null => .fail (.nullTarget method)
  | .holder _ payload =>
    if method = Intrinsic.holderValue then pure payload
    else .fail (.noSuchMethod Intrinsic.holderType method)
  | v => .fail (.typeMismatch .holder v.kind)

end SoapWrap.Machine
