import SoapWrap.Synthesis.Registry
import SoapWrap.Synthesis.Wrapper

/-!
Adapters: types that fill a wrapper from an ordered list of values and take it apart again. A
list-like field is appended to, a holder-like field is unwrapped when it is read.
-/

namespace SoapWrap

inductive ConstructStep where
  /-- Sets the list where there is none, else appends to it. -/
  | mergeList (getter setter : String)
  | passHolder (setter : String)
  | assign (setter : String)
  deriving DecidableEq

inductive DecomposeStep where
  | read (getter : String)
  | unwrapHolder (getter : String)
  deriving DecidableEq

def DecomposeStep.getter : DecomposeStep → String
  | read getter => getter
  | unwrapHolder getter => getter

structure Adapter where
  name : String
  wrapper : String
  fingerprint : String
  /-- The companion that the constructor creates. -/
  objectFactory : Option String
  construct : List ConstructStep
  decompose : List DecomposeStep
  deriving DecidableEq

inductive FieldShape where
  | list
  | holder
  | single
  deriving DecidableEq

namespace FieldShape

def decide (strict : Bool) (t : TypeExpr) : Classification → Except SynthesisError Bool
  | .yes => .ok true
  | .no => .ok false
  | .unknown => if strict then .error (.unknownClassification t) else .ok false

def ofType (index : Index) (strict : Bool) (t : TypeExpr) : Except SynthesisError FieldShape :=
  match decide strict t (index.classifyList t) with
  | .error e => .error e
  | .ok true => .ok .list
  | .ok false =>
    match decide strict t (index.classifyHolder t) with
    | .error e => .error e
    | .ok true => .ok .holder
    | .ok false => .ok .single

def constructStep (f : WrapperField) : FieldShape → ConstructStep
  | list => .mergeList f.getter f.setter
  | holder => .passHolder f.setter
  | single => .assign f.setter

def decomposeStep (f : WrapperField) : FieldShape → DecomposeStep
  | holder => .unwrapHolder f.getter
  | _ => .read f.getter

end FieldShape

namespace Adapter

def capability : String := "WrapperAdapter"

def fingerprintMethod : String := "fingerprint"
def constructMethod : String := "construct"
def populateMethod : String := "populate"
def decomposeMethod : String := "decompose"
def factoryField : String := "factory"

/-- The adapter of a wrapper; its name is allocated only when every field has a shape. -/
def ofWrapper (index : Index) (hasCompanion : String → Bool) (settings : Settings)
    (names : NameRegistry) (w : Wrapper) : Except SynthesisError (Adapter × NameRegistry) :=
  match mapAll (fun f => FieldShape.ofType index settings.strict f.declaredType) w.fields with
  | .error e => .error e
  | .ok shapes =>
    let companion := settings.companionFor w.package
    let (name, names) := names.allocate w.qualifiedName settings.adapterSuffix
    .ok ({
      name
      wrapper := w.qualifiedName
      fingerprint := w.fingerprint
      objectFactory := if hasCompanion companion then some companion else none
      construct := (w.fields.zip shapes).map fun (f, shape) => shape.constructStep f
      decompose := (w.fields.zip shapes).map fun (f, shape) => shape.decomposeStep f }, names)

def constructorBody (a : Adapter) : List Op :=
  match a.objectFactory with
  | none => [.return none]
  | some factory => [
      .allocate 0 factory [],
      .writeField .this factoryField (.local 0),
      .return none]

def constructBody (a : Adapter) : List Op := [
  .allocate 0 a.wrapper [],
  .invoke none .this ⟨a.name, populateMethod⟩ [.local 0, .param 0],
  .return (some (.local 0))]

def setterCall (wrapper setter : String) (slot : Nat) : Op :=
  .invoke none (.param 0) ⟨wrapper, setter⟩ [.local slot]

/-- The operations that store the values from a position on, `slot` being the first free slot. -/
def populateOps (wrapper : String) (position slot : Nat) : List ConstructStep → List Op
  | [] => []
  | step :: rest =>
    .invoke (some slot) (.param 1) ⟨Intrinsic.listType, Intrinsic.listGet⟩
        [.const (.int position)] ::
      match step with
      | .mergeList getter setter =>
        .invoke (some (slot + 1)) (.param 0) ⟨wrapper, getter⟩ [] ::
          .branchOnNull (.local (slot + 1))
            [setterCall wrapper setter slot]
            [.invoke none (.local (slot + 1)) ⟨Intrinsic.listType, Intrinsic.listAddAll⟩
              [.local slot]] ::
            populateOps wrapper (position + 1) (slot + 2) rest
      | .passHolder setter | .assign setter =>
        setterCall wrapper setter slot :: populateOps wrapper (position + 1) (slot + 1) rest

def populateBody (a : Adapter) : List Op :=
  populateOps a.wrapper 0 0 a.construct ++ [.return none]

def pushCall (slot : Nat) : Op :=
  .invoke none (.local 0) ⟨Intrinsic.listType, Intrinsic.listPush⟩ [.local slot]

def decomposeOps (wrapper : String) (slot : Nat) : List DecomposeStep → List Op
  | [] => []
  | step :: rest =>
    .invoke (some slot) (.param 0) ⟨wrapper, step.getter⟩ [] ::
      match step with
      | .read _ => pushCall slot :: decomposeOps wrapper (slot + 1) rest
      | .unwrapHolder _ =>
        .branchOnNull (.local slot)
            [pushCall slot]
            [.invoke (some (slot + 1)) (.local slot)
                ⟨Intrinsic.holderType, Intrinsic.holderValue⟩ [],
              pushCall (slot + 1)] ::
          decomposeOps wrapper (slot + 2) rest

def decomposeBody (a : Adapter) : List Op :=
  .allocate 0 Intrinsic.listType [.const (.int a.decompose.length)] ::
    decomposeOps a.wrapper 1 a.decompose ++ [.return (some (.local 0))]

def typeDef (a : Adapter) : TypeDef :=
  let wrapperType := TypeExpr.named a.wrapper
  let listType := TypeExpr.listOf (.named "any")
  { name := a.name
    capabilities := [capability]
    fields := a.objectFactory.toList.map fun factory => ⟨factoryField, .named factory⟩
    methods := [
      .ofConstructor [] a.constructorBody,
      .ofInstance fingerprintMethod [] (.named "string")
        [.return (some (.const (.text a.fingerprint)))],
      .ofInstance constructMethod [listType] wrapperType a.constructBody,
      .ofInstance populateMethod [wrapperType, listType] .void a.populateBody,
      .ofInstance decomposeMethod [wrapperType] listType a.decomposeBody] }

end Adapter

end SoapWrap
