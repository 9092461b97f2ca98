import Mathlib.Tactic.ByContra
import SoapWrap.Proofs.Machine.Populate

namespace SoapWrap

structure Heap.Grows (h k : Heap) : Prop where
  lists : ∀ q < h.lists.length, k.items q = h.items q
  objects : ∀ p < h.objects.length, k.object p = h.object p
  listCount : h.lists.length ≤ k.lists.length
  objectCount : h.objects.length ≤ k.objects.length

namespace Heap.Grows

variable {h k : Heap} (hk : h.Grows k) {o : Object}

lemma newObject_self (h : Heap) {o : Object} : h.Grows (h.newObject o).2 where
  lists := fun _ _ => rfl
  objects := fun _ hp => object_newObject_of_lt h hp
  listCount := Nat.le_refl _
  objectCount := by simp

include hk

lemma newObject : h.Grows (k.newObject o).2 where
  lists := hk.lists
  objects := by
    intro p hp
    rw [object_newObject_of_lt k (Nat.lt_of_lt_of_le hp hk.objectCount), hk.objects p hp]
  listCount := hk.listCount
  objectCount := by
    have hle := hk.objectCount
    rw [objects_newObject_length]
    omega

lemma setField {r : Nat} (hr : h.objects.length ≤ r) (name : String) (v : Value) :
    h.Grows (k.setField r name v) where
  lists := hk.lists
  objects := by
    intro p hp
    rw [object_setField_of_ne k (by omega), hk.objects p hp]
  listCount := hk.listCount
  objectCount := by
    rw [objects_setField_length]
    exact hk.objectCount

end Heap.Grows

lemma FieldShape.refusal?_null (shape : FieldShape) (v : Value) : shape.refusal? .null v = none := by
  cases shape <;> rfl

namespace Heap

variable {start : Heap} {r i : Nat} {w : Wrapper} {shape : WrapperField → FieldShape}
variable {values : List Value} {α : Type} {a : α} {x : Outcome α}
variable (hn : ∀ f ∈ w.fields, start.field? (.object r) f.name = some .null)
include hn

lemma stop?_null : start.stop? r w shape values i =
    if i < w.fields.length ∧ values.length ≤ i then some (.indexOutOfBounds i values.length)
    else none := by
  cases hf : w.fields[i]? with
  | none =>
    have hle := List.getElem?_eq_none_iff.mp hf
    rw [if_neg (by omega)]
    simp only [stop?, hf]
  | some f =>
    have hlt := (List.getElem?_eq_some_iff.mp hf).1
    cases hv : values[i]? with
    | none =>
      have hle := List.getElem?_eq_none_iff.mp hv
      rw [if_pos ⟨hlt, hle⟩]
      simp only [stop?, hf, hv]
    | some v =>
      have hvl := (List.getElem?_eq_some_iff.mp hv).1
      rw [if_neg (by omega)]
      simp only [stop?, hf, hv, hn f (List.mem_of_getElem? hf), Option.getD_some,
        FieldShape.refusal?_null]

lemma separate_of_null (source : Nat) : start.Separate r w shape values source := by
  have hk : ∀ f ∈ w.fields, ∀ q, ¬ start.Keeps r shape f q := by
    intro f hf q hq
    have he := (hn f hf).symm.trans hq.2
    cases he
  exact ⟨List.pairwise_of_forall_mem_list fun f hf g _ q hq => absurd hq (hk f hf q),
    fun f hf q hq => absurd hq (hk f hf q)⟩

lemma FillsTo.failed_of_null (hx : start.FillsTo r w shape values a x)
    (hlt : values.length < w.fields.length) :
    ∃ k, x = .failed (.indexOutOfBounds values.length values.length) k := by
  obtain ⟨k, h, -, hpre, hend⟩ := hx
  have hk : k ≤ values.length := by
    by_contra hgt
    have hs := hpre values.length (by omega)
    rw [stop?_null hn, if_pos ⟨hlt, Nat.le_refl _⟩] at hs
    cases hs
  rcases hend with ⟨hkn, -⟩ | ⟨e, hkn, hs, rfl⟩
  · omega
  · rw [stop?_null hn] at hs
    split at hs
    · next hle =>
      obtain rfl : k = values.length := by omega
      exact ⟨h, by rw [Option.some.inj hs]⟩
    · cases hs

lemma FillsTo.done_of_null (hx : start.FillsTo r w shape values a x)
    (hle : w.fields.length ≤ values.length) :
    ∃ k, start.Filled r w shape values w.fields.length k ∧ x = .done a k := by
  obtain ⟨k, h, hF, -, hend⟩ := hx
  rcases hend with ⟨rfl, hd⟩ | ⟨e, hkn, hs, -⟩
  · exact ⟨h, hF, hd⟩
  · rw [stop?_null hn, if_neg (by omega)] at hs
    cases hs

end Heap

structure Wrapper.Carries (w : Wrapper) (h : Heap) (r : Nat) (values : List Value) : Prop where
  type : (h.object r).type = w.qualifiedName
  fields : ∀ (i : Nat) f, w.fields[i]? = some f → h.field? (.object r) f.name = values[i]?
  only : ∀ name, name ∉ w.fields.map (·.name) → h.field? (.object r) name = none

lemma Wrapper.carries_of_filled {w : Wrapper} {start h : Heap} {r : Nat}
    {shape : WrapperField → FieldShape} {values : List Value}
    (ht : (start.object r).type = w.qualifiedName)
    (hn : ∀ name, start.field? (.object r) name =
      if name ∈ w.fields.map (·.name) then some .null else none)
    (hle : w.fields.length ≤ values.length)
    (hF : start.Filled r w shape values w.fields.length h) : w.Carries h r values where
  type := hF.type.trans ht
  fields := by
    intro i f hf
    have hi := (List.getElem?_eq_some_iff.mp hf).1
    have hv := List.getElem?_eq_getElem (show i < values.length by omega)
    rw [hv]
    refine hF.assigned i hi f _ hf hv fun q hq => ?_
    have hnull := hn f.name
    rw [if_pos (List.mem_map_of_mem (List.mem_of_getElem? hf)), hq.2] at hnull
    cases hnull
  only := by
    intro name hm
    rw [hF.fields name hm, hn name, if_neg hm]

namespace Adapter

/-- The companion of an adapter, if it has one, is a type that the machine knows by name alone. -/
def CompanionIn (a : Adapter) (m : Machine) : Prop :=
  ∀ factory, a.objectFactory = some factory → factory ∈ m.externals ∧ m.contains factory = false

variable {m : Machine} {a : Adapter} {w : Wrapper} {shape : WrapperField → FieldShape} {h : Heap}
variable {fuel p : Nat} {values : List Value}

lemma call_constructor_none (hf : a.objectFactory = none) :
    m.call (fuel + 1) (.ofConstructor [] a.constructorBody) (.object p) [] h = .done .null h := by
  apply Machine.call_returned rfl
  rw [MethodDef.ofConstructor, constructorBody, hf]
  exact Machine.steps_cons_returned Machine.step_return_none

lemma call_constructor_some (ha : a.LoadedIn w shape m) (hc : a.CompanionIn m) {factory : String}
    (hf : a.objectFactory = some factory) (hp : h.field? (.object p) factoryField = some .null) :
    m.call (fuel + 1) (.ofConstructor [] a.constructorBody) (.object p) [] h =
      .done .null ((h.newObject ⟨factory, .empty⟩).2.setField p factoryField
        (.object h.objects.length)) := by
  obtain ⟨he, hn⟩ := hc factory hf
  let g : Frame := { this := .object p, params := [] }
  have hallocate : m.step (m.call fuel) g (.allocate 0 factory []) h =
      .done (.next (g.put 0 (.object h.objects.length))) (h.newObject ⟨factory, .empty⟩).2 :=
    Machine.step_allocate Frame.evalAll_nil
      (Machine.instantiateWith_external (ha.companion factory hf).ne_list he hn) (by decide)
  have hp' : (h.newObject ⟨factory, .empty⟩).2.field? (.object p) factoryField = some .null := by
    rw [Heap.field?, Heap.object_newObject_of_lt h (h.lt_of_field? hp)]
    exact hp
  have hwrite : m.step (m.call fuel) (g.put 0 (.object h.objects.length))
      (.writeField .this factoryField (.local 0)) (h.newObject ⟨factory, .empty⟩).2 =
      .done (.next (g.put 0 (.object h.objects.length)))
        ((h.newObject ⟨factory, .empty⟩).2.setField p factoryField (.object h.objects.length)) :=
    Machine.step_writeField rfl Frame.eval_local_put (Machine.writeField_done hp')
  apply Machine.call_returned rfl
  rw [MethodDef.ofConstructor, constructorBody, hf]
  exact (Machine.steps_cons_next hallocate).trans ((Machine.steps_cons_next hwrite).trans
    (Machine.steps_cons_returned Machine.step_return_none))

variable (fuel h) in
lemma instantiate (ha : a.LoadedIn w shape m) (hc : a.CompanionIn m) :
    ∃ k, m.instantiateWith (m.call (fuel + 1)) a.name [] h = .done (.object h.objects.length) k ∧
      (k.object h.objects.length).type = a.name ∧ h.Grows k := by
  let o : Object := ⟨a.name, Machine.nullFields a.typeDef.fields .empty⟩
  have hnew {k : Heap} (hrun : m.call (fuel + 1) (.ofConstructor [] a.constructorBody)
      (.object h.objects.length) [] (h.newObject o).2 = .done .null k) :
      m.instantiateWith (m.call (fuel + 1)) a.name [] h = .done (.object h.objects.length) k :=
    Machine.instantiateWith_loaded ha.qualified.ne_list ha.loaded (Machine.fieldsOf_root rfl) rfl
      hrun
  have hgrows : h.Grows (h.newObject o).2 := .newObject_self h
  cases hf : a.objectFactory with
  | none => exact ⟨_, hnew (call_constructor_none hf), by simp [o], hgrows⟩
  | some factory =>
    have hfield : (h.newObject o).2.field? (.object h.objects.length) factoryField =
        some .null := by
      simp only [Heap.field?, Heap.object_newObject_self, o, Machine.get?_nullFields]
      simp [typeDef, hf]
    refine ⟨_, hnew (call_constructor_some ha hc hf hfield), ?_,
      hgrows.newObject.setField (Nat.le_refl _) _ _⟩
    rw [Heap.type_setField, Heap.object_newObject_of_lt _ (by simp), Heap.object_newObject_self]

def Constructs (a : Adapter) (w : Wrapper) (p : Nat) (values : List Value) (x : Outcome Value) :
    Prop :=
  (values.length < w.fields.length →
    ∃ k, x = .failed (.indexOutOfBounds values.length values.length) k) ∧
  (w.fields.length ≤ values.length →
    ∃ r k, x = .done (.object r) k ∧ w.Carries k r values ∧ (k.object p).type = a.name)

lemma call_construct (hw : w.LoadedIn m) (ha : a.LoadedIn w shape m)
    (hp : (h.object p).type = a.name) (hslots : 2 * w.fields.length < slotCount)
    {source : Nat} (hsource : source < h.lists.length) (hvalues : h.items source = values) :
    a.Constructs w p values
      (m.invokeWith (m.call (fuel + 3)) (.object p) constructMethod [.list source] h) := by
  obtain ⟨fields, hnew, hnull⟩ := hw.instantiate_null (fuel + 1) h
  let r := h.objects.length
  let start := (h.newObject ⟨w.qualifiedName, fields⟩).2
  have hfield (name : String) : start.field? (.object r) name =
      if name ∈ w.fields.map (·.name) then some .null else none := by
    simp only [Heap.field?, start, r, Heap.object_newObject_self, hnull]
  have htype : (start.object r).type = w.qualifiedName := by
    simp only [start, r, Heap.object_newObject_self]
  have hempty : ∀ f ∈ w.fields, start.field? (.object r) f.name = some .null := by
    intro f hf
    rw [hfield, if_pos (List.mem_map_of_mem hf)]
  have hadapter : (start.object p).type = a.name := by
    rw [Heap.object_newObject_of_lt h (h.lt_of_isQualified (hp ▸ ha.qualified)), hp]
  have hfill : start.FillsTo r w shape values .null (m.invokeWith (m.call (fuel + 2)) (.object p)
      populateMethod [.object r, .list source] start) :=
    call_populate hw ha ⟨htype, fun f hf => ⟨.null, hempty f hf⟩⟩
      (Heap.separate_of_null hempty source) hsource hvalues hadapter hslots
  let g : Frame := { this := .object p, params := [.list source] }
  have hallocate : m.step (m.call (fuel + 2)) g (.allocate 0 a.wrapper []) h =
      .done (.next (g.put 0 (.object r))) start :=
    Machine.step_allocate Frame.evalAll_nil (ha.wrapper ▸ hnew) (by decide)
  have hargs : (g.put 0 (.object r)).evalAll [.local 0, .param 0] =
      pure [.object r, .list source] := rfl
  have hname : populateMethod ≠ Intrinsic.constructor := by decide
  have hdispatch : m.dispatch (m.call (fuel + 2)) (.object p) ⟨a.name, populateMethod⟩
      [.object r, .list source] start = m.invokeWith (m.call (fuel + 2)) (.object p) populateMethod
      [.object r, .list source] start := by
    rw [Machine.dispatch_generated ha.qualified.ne_list ha.qualified.ne_holder hname]
  rw [ha.invokeWith hp (d := .ofInstance constructMethod [.listOf (.named "any")]
    (.named a.wrapper) a.constructBody) rfl]
  refine ⟨fun hlt => ?_, fun hle => ?_⟩
  · obtain ⟨k, hk⟩ := hfill.failed_of_null hempty hlt
    refine ⟨k, Machine.call_failed rfl ((Machine.steps_cons_next hallocate).trans ?_)⟩
    apply Machine.steps_cons_failed
    exact Machine.step_invoke_failed Frame.eval_this hargs (hdispatch.trans hk)
  · obtain ⟨k, hF, hk⟩ := hfill.done_of_null hempty hle
    have hpr : p ≠ r := Nat.ne_of_lt (h.lt_of_isQualified (hp ▸ ha.qualified))
    have hpopulate := Machine.step_invoke_none Frame.eval_this hargs (hdispatch.trans hk)
    refine ⟨r, k, Machine.call_returned rfl ((Machine.steps_cons_next hallocate).trans ?_),
      Wrapper.carries_of_filled htype hfield hle hF, by rw [hF.objects p hpr, hadapter]⟩
    exact (Machine.steps_cons_next hpopulate).trans
      (Machine.steps_cons_returned (Machine.step_return_some Frame.eval_local_put))

end Adapter

namespace AdapterHandle

variable {m : Machine} {w : Wrapper} {shape : WrapperField → FieldShape} {a : Adapter}
variable {handle : AdapterHandle} {h : Heap} {p : Nat} {values : List Value}

variable (h) in
lemma adapter_done (ha : a.LoadedIn w shape m) (hc : a.CompanionIn m) :
    ∃ k, m.adapter a.name h = .done ⟨a.name, .object h.objects.length⟩ k ∧
      (k.object h.objects.length).type = a.name ∧ h.Grows k := by
  obtain ⟨k, hnew, ht, hk⟩ := Adapter.instantiate h 9999 ha hc
  refine ⟨k, ?_, ht, hk⟩
  have hcap : a.typeDef.hasCapability Adapter.capability = true := by
    simp [TypeDef.hasCapability, Adapter.typeDef]
  simp only [Machine.adapter, Machine.require, ha.loaded, Exec.pure_bind, hcap, if_true]
  exact Exec.bind_done hnew

variable (values) in
lemma construct_constructs (hw : w.LoadedIn m) (ha : a.LoadedIn w shape m)
    (hslots : 2 * w.fields.length < slotCount) (hhandle : handle.instance_ = .object p)
    (hp : (h.object p).type = a.name) : a.Constructs w p values (handle.construct m values h) := by
  have hp' : ((h.newList values).2.object p).type = a.name := hp
  have hcall : a.Constructs w p values (m.invoke (.object p) Adapter.constructMethod
      [.list h.lists.length] (h.newList values).2) :=
    Adapter.call_construct hw ha hp' hslots (by simp) (Heap.items_newList_self h)
  rw [construct, Exec.bind_done (Exec.allocate_apply _ h), hhandle]
  exact hcall

end AdapterHandle

end SoapWrap
