import Mathlib.Tactic.ByContra
import SoapWrap.Proofs.Machine.Execution
import SoapWrap.Proofs.Synthesis.AdapterSteps
import SoapWrap.Proofs.Synthesis.WrapperFields

namespace SoapWrap

/-- A name with a package, so that it is none of the machine's own types. -/
def IsQualified (name : String) : Prop := '.' ∈ name.toList

namespace IsQualified

variable {name : String} (hq : IsQualified name)
include hq

lemma ne_list : name ≠ Intrinsic.listType := by
  rintro rfl
  simp [IsQualified, Intrinsic.listType] at hq

lemma ne_holder : name ≠ Intrinsic.holderType := by
  rintro rfl
  simp [IsQualified, Intrinsic.holderType] at hq

lemma ne_exception : name ≠ Intrinsic.exceptionType := by
  rintro rfl
  simp [IsQualified, Intrinsic.exceptionType] at hq

lemma append (suffix : String) : IsQualified (name ++ suffix) := by
  simp only [IsQualified, String.toList_append, List.mem_append]
  exact .inl hq

end IsQualified

lemma Text.isQualified_qualify {package : String} (hp : package ≠ "") (name : String) :
    IsQualified (qualify package name) := by
  rw [qualify, if_neg hp]
  simp [IsQualified]

lemma Heap.lt_of_isQualified (h : Heap) {p : Nat} (hq : IsQualified (h.object p).type) :
    p < h.objects.length := by
  by_contra hp
  rw [object_eq_default h hp] at hq
  simp [IsQualified] at hq

namespace Wrapper

variable {w : Wrapper} {f : WrapperField}

lemma mem_methods {d : MethodDef} (hd : d ∈ w.typeDef.methods) (hk : d.kind = .onInstance) :
    ∃ f ∈ w.fields, d = getterDef f ∨ d = setterDef f := by
  rcases List.mem_cons.mp hd with rfl | hd
  · cases hk
  · obtain ⟨f, hf, hm⟩ := List.mem_flatMap.mp hd
    exact ⟨f, hf, by simpa using hm⟩

namespace Distinct

variable (hw : w.Distinct) (hf : f ∈ w.fields)
include hw hf

lemma instanceMethod?_getter : w.typeDef.instanceMethod? f.getter = some (getterDef f) := by
  refine find?_eq_some_of_unique ?_ (by simp [getterDef, MethodDef.ofInstance]) ?_
  · exact List.mem_cons_of_mem _ (List.mem_flatMap.mpr ⟨f, hf, by simp⟩)
  · intro d hd hp
    obtain ⟨hn, hk⟩ : d.name = f.getter ∧ d.kind = .onInstance := by simpa using hp
    obtain ⟨g, hg, rfl | rfl⟩ := mem_methods hd hk
    · rw [List.inj_on_of_nodup_map hw.getters hg hf hn]
    · exact (hw.apart f hf g hg hn.symm).elim

lemma instanceMethod?_setter : w.typeDef.instanceMethod? f.setter = some (setterDef f) := by
  refine find?_eq_some_of_unique ?_ (by simp [setterDef, MethodDef.ofInstance]) ?_
  · exact List.mem_cons_of_mem _ (List.mem_flatMap.mpr ⟨f, hf, by simp⟩)
  · intro d hd hp
    obtain ⟨hn, hk⟩ : d.name = f.setter ∧ d.kind = .onInstance := by simpa using hp
    obtain ⟨g, hg, rfl | rfl⟩ := mem_methods hd hk
    · exact (hw.apart g hg f hf hn).elim
    · rw [List.inj_on_of_nodup_map hw.setters hg hf hn]

end Distinct

structure LoadedIn (w : Wrapper) (m : Machine) : Prop where
  distinct : w.Distinct
  qualified : IsQualified w.qualifiedName
  loaded : m.get? w.qualifiedName = some w.typeDef

namespace LoadedIn

variable {m : Machine} {fuel r : Nat} {h : Heap} {v u : Value}
variable (hw : w.LoadedIn m)
include hw

section Accessor

variable (hf : f ∈ w.fields) (ht : (h.object r).type = w.qualifiedName)
variable (hv : h.field? (.object r) f.name = some v)
include hf ht hv

lemma dispatch_getter :
    m.dispatch (m.call (fuel + 1)) (.object r) ⟨w.qualifiedName, f.getter⟩ [] h = .done v h := by
  rw [Machine.dispatch_generated hw.qualified.ne_list hw.qualified.ne_holder
    (hw.distinct.getter_ne f hf)]
  have hx : (h.object r).type ≠ Intrinsic.exceptionType := ht ▸ hw.qualified.ne_exception
  rw [Machine.invokeWith_found hx (ht ▸ hw.loaded) (hw.distinct.instanceMethod?_getter hf)]
  apply Machine.call_returned rfl
  exact (Machine.steps_cons_next (Machine.step_readField rfl (Machine.readField_done hv)
    (by decide))).trans (Machine.steps_cons_returned (Machine.step_return_some Frame.eval_local_put))

lemma dispatch_setter :
    m.dispatch (m.call (fuel + 1)) (.object r) ⟨w.qualifiedName, f.setter⟩ [u] h =
      .done .null (h.setField r f.name u) := by
  rw [Machine.dispatch_generated hw.qualified.ne_list hw.qualified.ne_holder
    (hw.distinct.setter_ne f hf)]
  have hx : (h.object r).type ≠ Intrinsic.exceptionType := ht ▸ hw.qualified.ne_exception
  rw [Machine.invokeWith_found hx (ht ▸ hw.loaded) (hw.distinct.instanceMethod?_setter hf)]
  apply Machine.call_returned rfl
  exact (Machine.steps_cons_next (Machine.step_writeField rfl rfl
    (Machine.writeField_done hv))).trans (Machine.steps_cons_returned Machine.step_return_none)

end Accessor

variable (fuel h) in
lemma instantiate_null :
    ∃ fields, m.instantiateWith (m.call (fuel + 1)) w.qualifiedName [] h =
      .done (.object h.objects.length) (h.newObject ⟨w.qualifiedName, fields⟩).2 ∧
      ∀ name, fields.get? name =
        if name ∈ w.fields.map (·.name) then some .null else none := by
  have hc : m.call (fuel + 1) (.ofConstructor [] [returnNothing]) (.object h.objects.length) []
      (h.newObject ⟨w.qualifiedName, Machine.nullFields w.typeDef.fields .empty⟩).2 =
      .done .null (h.newObject ⟨w.qualifiedName,
        Machine.nullFields w.typeDef.fields .empty⟩).2 :=
    Machine.call_returned rfl (Machine.steps_cons_returned Machine.step_return_none)
  refine ⟨_, Machine.instantiateWith_loaded hw.qualified.ne_list hw.loaded
    (Machine.fieldsOf_root rfl) rfl hc, fun name => ?_⟩
  rw [Machine.get?_nullFields]
  simp only [typeDef, List.map_map, Dict.get?_empty]
  rfl

end LoadedIn

lemma loadedIn_of_ok {m : Machine} {scope : Scope} {op : Operation} {kind : WrapperKind}
    (hp : scope.package ≠ "") (hw : scope.wrapper op kind = .ok w)
    (hl : m.get? w.qualifiedName = some w.typeDef) : w.LoadedIn m where
  distinct := distinct_of_wrapper_ok hw
  qualified := by
    obtain ⟨-, -, rfl⟩ := Scope.wrapper_ok hw
    exact Text.isQualified_qualify hp _
  loaded := hl

structure InstanceAt (w : Wrapper) (h : Heap) (r : Nat) : Prop where
  type : (h.object r).type = w.qualifiedName
  present : ∀ f ∈ w.fields, ∃ v, h.field? (.object r) f.name = some v

end Wrapper

namespace Adapter

variable {m : Machine} {call : Machine.Caller} {a : Adapter} {w : Wrapper} {h : Heap} {p : Nat}
variable {shape : WrapperField → FieldShape} {args : List Value}

structure LoadedIn (a : Adapter) (w : Wrapper) (shape : WrapperField → FieldShape) (m : Machine) :
    Prop where
  qualified : IsQualified a.name
  loaded : m.get? a.name = some a.typeDef
  wrapper : a.wrapper = w.qualifiedName
  construct : a.construct = w.fields.map fun f => (shape f).constructStep f
  decompose : a.decompose = w.fields.map fun f => (shape f).decomposeStep f
  companion : ∀ factory, a.objectFactory = some factory → IsQualified factory

lemma loadedIn_of_ok {index : Index} {hasCompanion : String → Bool} {settings : Settings}
    {names names' : NameRegistry} (hp : w.package ≠ "") (hw : w.LoadedIn m)
    (ha : ofWrapper index hasCompanion settings names w = .ok (a, names'))
    (hl : m.get? a.name = some a.typeDef) :
    a.LoadedIn w (fun f => .of index settings.strict f.declaredType) m := by
  obtain ⟨-, -, rfl⟩ := ofWrapper_ok ha
  refine ⟨(hw.qualified.append _).append _, hl, rfl, rfl, rfl, fun factory hf => ?_⟩
  rw [Option.ite_none_right_eq_some] at hf
  exact Option.some.inj hf.2 ▸ Text.isQualified_qualify hp _

lemma LoadedIn.invokeWith (ha : a.LoadedIn w shape m) (hp : (h.object p).type = a.name)
    {name : String} {d : MethodDef} (hd : a.typeDef.instanceMethod? name = some d) :
    m.invokeWith call (.object p) name args h = call d (.object p) args h :=
  Machine.invokeWith_found (hp ▸ ha.qualified.ne_exception) (hp ▸ ha.loaded) hd

end Adapter

end SoapWrap
