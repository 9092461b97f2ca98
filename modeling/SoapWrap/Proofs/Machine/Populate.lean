import SoapWrap.Machine.Handle
import SoapWrap.Proofs.Machine.Accessors
import SoapWrap.Proofs.Machine.Fill
import SoapWrap.Proofs.Synthesis.InterfaceSteps

namespace SoapWrap

namespace Adapter

variable {m : Machine} {w : Wrapper} {f : WrapperField} {shape : FieldShape} {fuel r source : Nat}
variable {h : Heap} {g : Frame} {i slot : Nat} {held v : Value} {steps : List ConstructStep}
variable {tail : List Op}

lemma addAll_refused {e : RunError} (he : FieldShape.list.refusal? held v = some e) :
    Machine.listMethod held Intrinsic.listAddAll [v] h = .failed e h := by
  cases held with
  | null => simp [FieldShape.refusal?] at he
  | list q =>
    cases v <;> simp only [FieldShape.refusal?, Option.some.injEq, reduceCtorEq] at he <;>
      exact he ▸ rfl
  | _ =>
    simp only [FieldShape.refusal?, Option.some.injEq] at he
    exact he ▸ rfl

lemma addAll_stored (hn : held ≠ .null) (he : FieldShape.list.refusal? held v = none) :
    Machine.listMethod held Intrinsic.listAddAll [v] h =
      .done .null (h.store r f.name .list held v) := by
  cases held with
  | null => exact absurd rfl hn
  | list q =>
    cases v with
    | null =>
      rw [Machine.listMethod_addAll_null, Heap.store, Heap.contents_eq_nil (by simp),
        List.append_nil, Heap.setItems_items]
    | list p => rfl
    | _ => simp [FieldShape.refusal?] at he
  | _ => simp [FieldShape.refusal?] at he

section Store

variable (hg : g.params = [.object r, .list source])
include hg

lemma eval_instance : g.eval (.param 0) = pure (.object r) :=
  Frame.eval_param (by rw [hg]; rfl)

lemma eval_source : g.eval (.param 1) = pure (.list source) :=
  Frame.eval_param (by rw [hg]; rfl)

lemma step_get_done {call : Machine.Caller} (hv : (h.items source)[i]? = some v)
    (hs : slot < slotCount) :
    m.step call g (.invoke (some slot) (.param 1) ⟨Intrinsic.listType, Intrinsic.listGet⟩
      [.const (.int i)]) h = .done (.next (g.put slot v)) h := by
  apply Machine.step_invoke (eval_source hg) (Frame.evalAll_singleton (Frame.eval_const _)) _ hs
  exact Machine.dispatch_list ▸ Machine.getItem_done hv

lemma step_get_failed {call : Machine.Caller} (hv : (h.items source)[i]? = none) :
    m.step call g (.invoke (some slot) (.param 1) ⟨Intrinsic.listType, Intrinsic.listGet⟩
      [.const (.int i)]) h = .failed (.indexOutOfBounds i (h.items source).length) h := by
  apply Machine.step_invoke_failed (eval_source hg) (Frame.evalAll_singleton (Frame.eval_const _))
  exact Machine.dispatch_list ▸ Machine.getItem_failed hv

lemma steps_populate_missing (hv : (h.items source)[i]? = none) :
    m.steps (m.call fuel) g
      (populateOps w.qualifiedName i slot (shape.constructStep f :: steps) ++ tail) h =
      .failed (.indexOutOfBounds i (h.items source).length) h := by
  cases shape <;> exact Machine.steps_cons_failed (step_get_failed hg hv)

variable (hw : w.LoadedIn m) (hf : f ∈ w.fields) (ht : (h.object r).type = w.qualifiedName)
variable (hh : h.field? (.object r) f.name = some held) (hv : (h.items source)[i]? = some v)
variable (hs : slot + 1 < slotCount)
include hw hf ht hh

lemma step_setterCall (hl : g.eval (.local slot) = pure v) :
    m.step (m.call (fuel + 1)) g (setterCall w.qualifiedName f.setter slot) h =
      .done (.next g) (h.setField r f.name v) :=
  Machine.step_invoke_none (eval_instance hg) (Frame.evalAll_singleton hl)
    (hw.dispatch_setter hf ht hh)

include hv hs

lemma steps_mergeList :
    m.steps (m.call (fuel + 1)) g
      (populateOps w.qualifiedName i slot (FieldShape.list.constructStep f :: steps) ++ tail) h =
      m.steps (m.call (fuel + 1)) ((g.put slot v).put (slot + 1) held)
        (.branchOnNull (.local (slot + 1))
          [setterCall w.qualifiedName f.setter slot]
          [.invoke none (.local (slot + 1)) ⟨Intrinsic.listType, Intrinsic.listAddAll⟩
            [.local slot]] ::
          (populateOps w.qualifiedName (i + 1) (slot + 2) steps ++ tail)) h := by
  have hg' : (g.put slot v).params = [.object r, .list source] := hg
  refine (Machine.steps_cons_next (step_get_done hg hv (by omega))).trans ?_
  apply Machine.steps_cons_next
  exact Machine.step_invoke (eval_instance hg') Frame.evalAll_nil (hw.dispatch_getter hf ht hh)
    (by omega)

lemma steps_populate_refused {e : RunError} (he : shape.refusal? held v = some e) :
    m.steps (m.call (fuel + 1)) g
      (populateOps w.qualifiedName i slot (shape.constructStep f :: steps) ++ tail) h =
      .failed e h := by
  cases shape with
  | list =>
    rw [steps_mergeList hg hw hf ht hh hv hs]
    have hread : ((g.put slot v).put (slot + 1) held).eval (.local (slot + 1)) = pure held :=
      Frame.eval_local_put
    have hnew : ((g.put slot v).put (slot + 1) held).eval (.local slot) = pure v :=
      (Frame.eval_local_put_of_ne (by omega)).trans Frame.eval_local_put
    have hn : held ≠ .null := by
      rintro rfl
      simp [FieldShape.refusal?] at he
    apply Machine.steps_cons_failed
    rw [Machine.step_branch_some hread hn]
    apply Machine.steps_cons_failed
    apply Machine.step_invoke_failed hread (Frame.evalAll_singleton hnew)
    rw [Machine.dispatch_list]
    exact addAll_refused he
  | holder => simp [FieldShape.refusal?] at he
  | single => simp [FieldShape.refusal?] at he

variable (fuel slot steps tail) in
lemma steps_populate_stored (he : shape.refusal? held v = none) :
    ∃ g' slot', g'.params = g.params ∧ slot' ≤ slot + 2 ∧
      m.steps (m.call (fuel + 1)) g
        (populateOps w.qualifiedName i slot (shape.constructStep f :: steps) ++ tail) h =
      m.steps (m.call (fuel + 1)) g' (populateOps w.qualifiedName (i + 1) slot' steps ++ tail)
        (h.store r f.name shape held v) := by
  cases shape with
  | list =>
    rw [steps_mergeList hg hw hf ht hh hv hs]
    refine ⟨(g.put slot v).put (slot + 1) held, slot + 2, rfl, by omega, ?_⟩
    have hread : ((g.put slot v).put (slot + 1) held).eval (.local (slot + 1)) = pure held :=
      Frame.eval_local_put
    have hnew : ((g.put slot v).put (slot + 1) held).eval (.local slot) = pure v :=
      (Frame.eval_local_put_of_ne (by omega)).trans Frame.eval_local_put
    apply Machine.steps_cons_next
    by_cases hn : held = .null
    · subst hn
      rw [Machine.step_branch_null hread]
      exact Machine.steps_cons_next (step_setterCall hg hw hf ht hh hnew)
    · rw [Machine.step_branch_some hread hn]
      apply Machine.steps_cons_next
      apply Machine.step_invoke_none hread (Frame.evalAll_singleton hnew)
      rw [Machine.dispatch_list]
      exact addAll_stored hn he
  | holder =>
    refine ⟨g.put slot v, slot + 1, rfl, by omega, ?_⟩
    exact (Machine.steps_cons_next (step_get_done hg hv (by omega))).trans
      (Machine.steps_cons_next (step_setterCall hg hw hf ht hh Frame.eval_local_put))
  | single =>
    refine ⟨g.put slot v, slot + 1, rfl, by omega, ?_⟩
    exact (Machine.steps_cons_next (step_get_done hg hv (by omega))).trans
      (Machine.steps_cons_next (step_setterCall hg hw hf ht hh Frame.eval_local_put))

end Store

section Run

variable {m : Machine} {w : Wrapper} {shape : WrapperField → FieldShape} {fuel r source : Nat}
variable {start h : Heap} {values : List Value} {g : Frame} {k slot : Nat}

lemma steps_populateOps (hw : w.LoadedIn m) (hi : w.InstanceAt start r)
    (hsep : start.Separate r w shape values source) (hsrc : source < start.lists.length)
    (hval : start.items source = values) (hg : g.params = [.object r, .list source])
    {fs : List WrapperField} (hfs : w.fields.drop k = fs) (hk : k ≤ w.fields.length)
    (hslot : slot + 2 * fs.length < slotCount)
    (hF : start.Filled r w shape values k h)
    (hpre : ∀ i < k, start.stop? r w shape values i = none) :
    start.FillsTo r w shape values (.returned .null)
      (m.steps (m.call (fuel + 1)) g (populateOps w.qualifiedName k slot
        (fs.map fun f => (shape f).constructStep f) ++ [.return none]) h) := by
  induction fs generalizing k slot g h with
  | nil =>
    have hn : k = w.fields.length := Nat.le_antisymm hk (List.drop_eq_nil_iff.mp hfs)
    exact ⟨k, h, hF, hpre, .inl ⟨hn, Machine.steps_cons_returned Machine.step_return_none⟩⟩
  | cons f rest ih =>
    obtain ⟨hf, hrest⟩ := drop_eq_cons hfs
    have hlt : k < w.fields.length := (List.getElem?_eq_some_iff.mp hf).1
    have hmem := List.mem_of_getElem? hf
    have hitems : h.items source = values := (hF.source_eq hsep hsrc).trans hval
    obtain ⟨held, hheld⟩ := hi.present f hmem
    have hh : h.field? (.object r) f.name = some held :=
      (hF.later k f (Nat.le_refl k) hf).1.trans hheld
    have ht : (h.object r).type = w.qualifiedName := hF.type.trans hi.type
    simp only [List.map_cons, List.length_cons] at hslot ⊢
    cases hv : values[k]? with
    | none =>
      refine ⟨k, h, hF, hpre, .inr ⟨.indexOutOfBounds k values.length, hlt,
        by simp only [Heap.stop?, hf, hv], ?_⟩⟩
      rw [← hitems] at hv ⊢
      exact steps_populate_missing hg hv
    | some v =>
      have hvs : (h.items source)[k]? = some v := by rw [hitems, hv]
      have hstop : start.stop? r w shape values k = (shape f).refusal? held v := by
        simp only [Heap.stop?, hf, hv, hheld, Option.getD_some]
      cases he : (shape f).refusal? held v with
      | some e =>
        refine ⟨k, h, hF, hpre, .inr ⟨e, hlt, hstop.trans he, ?_⟩⟩
        exact steps_populate_refused hg hw hmem ht hh hvs (by omega) he
      | none =>
        obtain ⟨g', slot', hg', hs', hrun⟩ := steps_populate_stored fuel slot
          (rest.map fun f => (shape f).constructStep f) [.return none] hg hw hmem ht hh hvs
          (by omega) he
        rw [hrun]
        apply ih (hg'.trans hg) hrest hlt (by omega) (hF.store hw.distinct hsep hf hv hheld)
        intro i hi
        by_cases hik : i = k
        · rw [hik, hstop, he]
        · exact hpre i (by omega)

variable {a : Adapter} {p : Nat}

lemma call_populate (hw : w.LoadedIn m) (ha : a.LoadedIn w shape m)
    (hi : w.InstanceAt start r) (hsep : start.Separate r w shape values source)
    (hsrc : source < start.lists.length) (hval : start.items source = values)
    (hp : (start.object p).type = a.name) (hslot : 2 * w.fields.length < slotCount) :
    start.FillsTo r w shape values .null (m.invokeWith (m.call (fuel + 2)) (.object p)
      populateMethod [.object r, .list source] start) := by
  rw [ha.invokeWith hp (d := .ofInstance populateMethod
    [.named a.wrapper, .listOf (.named "any")] .void a.populateBody) rfl]
  have hrun : start.FillsTo r w shape values (.returned .null)
      (m.steps (m.call (fuel + 1)) { this := .object p, params := [.object r, .list source] }
        (populateOps w.qualifiedName 0 0 (w.fields.map fun f => (shape f).constructStep f) ++
          [.return none]) start) :=
    steps_populateOps hw hi hsep hsrc hval rfl List.drop_zero (Nat.zero_le _) (by omega)
      (.refl start r w shape values) (fun i hi => absurd hi (Nat.not_lt_zero i))
  rw [← ha.construct, ← ha.wrapper] at hrun
  exact hrun.imp (fun h hs => Machine.call_returned rfl hs)
    (fun e h hs => Machine.call_failed rfl hs)

end Run

end Adapter

namespace AdapterHandle

variable {m : Machine} {w : Wrapper} {shape : WrapperField → FieldShape} {a : Adapter}
variable {handle : AdapterHandle} {h : Heap} {p r : Nat} {values : List Value}

lemma populate_fills (hw : w.LoadedIn m) (ha : a.LoadedIn w shape m)
    (hslots : 2 * w.fields.length < slotCount) (hhandle : handle.instance_ = .object p)
    (hp : (h.object p).type = a.name) (hr : w.InstanceAt h r)
    (hdistinct : (h.keptLists r w shape ++ values.filterMap Value.listRef?).Nodup)
    (hl : ∀ q ∈ h.keptLists r w shape ++ values.filterMap Value.listRef?, q < h.lists.length) :
    h.FillsTo r w shape values () (handle.populate m (.object r) values h) := by
  have hi : w.InstanceAt (h.newList values).2 r := ⟨hr.type, hr.present⟩
  have hcall : (h.newList values).2.FillsTo r w shape values .null
      (m.invoke (.object p) Adapter.populateMethod [.object r, .list h.lists.length]
        (h.newList values).2) :=
    Adapter.call_populate hw ha hi (Heap.separate_newList hl hdistinct) (by simp) (by simp) hp
      hslots
  refine Heap.FillsTo.of_newList hl (hcall.imp ?_ ?_)
  · intro h' hd
    rw [populate, Exec.bind_done (Exec.allocate_apply _ h), hhandle]
    exact Exec.bind_done hd
  · intro e h' hf
    rw [populate, Exec.bind_done (Exec.allocate_apply _ h), hhandle]
    exact Exec.bind_failed hf

theorem populate_merges_lists {m : Machine} {scope : Scope} {op : Operation} {kind : WrapperKind}
    {w : Wrapper} {hasCompanion : String → Bool} {names names' : NameRegistry} {a : Adapter}
    {handle : AdapterHandle} {h : Heap} {p r : Nat} {values : List Value}
    (hpackage : scope.package ≠ "") (hw : scope.wrapper op kind = .ok w)
    (ha : Adapter.ofWrapper scope.index hasCompanion scope.settings names w = .ok (a, names'))
    (hslots : 2 * w.fields.length < slotCount)
    (hwm : m.get? w.qualifiedName = some w.typeDef) (ham : m.get? a.name = some a.typeDef)
    (hhandle : handle.instance_ = .object p) (hp : (h.object p).type = a.name)
    (hr : w.InstanceAt h r) :
    let shape := fun f => FieldShape.of scope.index scope.settings.strict f.declaredType
    let lists := h.keptLists r w shape ++ values.filterMap Value.listRef?
    lists.Nodup → (∀ q ∈ lists, q < h.lists.length) →
      h.FillsTo r w shape values () (handle.populate m (.object r) values h) := by
  intro shape lists hdistinct hl
  have hloaded := Wrapper.loadedIn_of_ok hpackage hw hwm
  have hwp : w.package ≠ "" := Scope.wrapper_package hw ▸ hpackage
  exact populate_fills hloaded (Adapter.loadedIn_of_ok hwp hloaded ha ham) hslots hhandle hp hr
    hdistinct hl

end AdapterHandle

namespace Pantry

def scope : Scope := ⟨index, "org.acme.jaxws_asm", "http://acme.org/", {}⟩

def fill : Operation where
  methodName := "fill"
  params := [
    { declaredType := .listOf (.named "string"), declaredName := some "items" },
    { declaredType := ⟨TypeExpr.holderBase, [.named "string"]⟩, declaredName := some "label" },
    { declaredType := .named "int", declaredName := some "count" }]
  result := { declaredType := .void }

def wrapper : Wrapper where
  name := "Fill"
  package := "org.acme.jaxws_asm"
  xmlNamespace := "http://acme.org/"
  elementName := "fill"
  kind := .request
  fields := (Scope.elements .request fill).map Scope.field

def adapter : Adapter where
  name := "org.acme.jaxws_asm.Fill_Adapter1"
  wrapper := wrapper.qualifiedName
  fingerprint := wrapper.fingerprint
  objectFactory := none
  construct := [.mergeList "getItems" "setItems", .passHolder "setLabel", .assign "setCount"]
  decompose := [.read "getItems", .unwrapHolder "getLabel", .read "getCount"]

def machine : Machine := { types := [wrapper.typeDef, adapter.typeDef] }

def heap : Heap where
  lists := [[.text "rice"], [.text "salt"]]
  objects := [
    ⟨adapter.name, .empty⟩,
    ⟨wrapper.qualifiedName,
      ((Dict.empty.insert "items" (.list 0)).insert "label" .null).insert "count" (.int 4)⟩]

end Pantry

theorem AdapterHandle.populate_merges_lists_pantry :
    Pantry.heap.FillsTo 1 Pantry.wrapper
      (fun f => .of Pantry.index false f.declaredType) [.list 1, .null, .int 5] ()
      (populate ⟨Pantry.adapter.name, .object 0⟩ Pantry.machine (.object 1)
        [.list 1, .null, .int 5] Pantry.heap) := by
  have hr : Pantry.wrapper.InstanceAt Pantry.heap 1 := by
    have hp : ∀ f ∈ Pantry.wrapper.fields, (Pantry.heap.field? (.object 1) f.name).isSome := by
      decide +kernel
    exact ⟨by decide +kernel, fun f hf => Option.isSome_iff_exists.mp (hp f hf)⟩
  have hw : Pantry.scope.wrapper Pantry.fill .request = .ok Pantry.wrapper := by decide +kernel
  have ha : Adapter.ofWrapper Pantry.scope.index (fun _ => false) Pantry.scope.settings {}
      Pantry.wrapper = .ok (Pantry.adapter, ⟨[Pantry.adapter.name]⟩) := by
    decide +kernel
  exact populate_merges_lists (by decide) hw ha (by decide +kernel) (by decide +kernel)
    (by decide +kernel) rfl (by decide +kernel) hr (by decide +kernel) (by decide +kernel)

example :
    (match AdapterHandle.populate ⟨Pantry.adapter.name, .object 0⟩ Pantry.machine (.object 1)
        [.list 1, .null, .int 5] Pantry.heap with
      | .done _ h => h.items 0
      | _ => []) = [.text "rice", .text "salt"] := by
  decide +kernel

end SoapWrap
