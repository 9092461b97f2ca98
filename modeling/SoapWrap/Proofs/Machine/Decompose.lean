import SoapWrap.Machine.Handle
import SoapWrap.Proofs.Machine.Accessors
import SoapWrap.Proofs.Machine.Builtins

namespace SoapWrap

def FieldShape.part? : FieldShape → Value → Option Value
  | holder, .null => some .null
  | holder, .holder _ payload => some payload
  | holder, _ => none
  | _, v => some v

def Heap.ReadsTo (h : Heap) (r : Nat) (w : Wrapper) (shape : WrapperField → FieldShape)
    {α : Type} (result : List Value → α) (x : Outcome α) : Prop :=
  ∃ parts : List Value,
    (∀ i < parts.length, ∀ f v, w.fields[i]? = some f →
      h.field? (.object r) f.name = some v → parts[i]? = (shape f).part? v) ∧
    ((parts.length = w.fields.length ∧ x = .done (result parts) (h.newList parts).2) ∨
      ∃ f v, w.fields[parts.length]? = some f ∧ h.field? (.object r) f.name = some v ∧
        (shape f).part? v = none ∧
        x = .failed (.typeMismatch .holder v.kind) (h.newList parts).2)

lemma Heap.ReadsTo.imp {h : Heap} {r : Nat} {w : Wrapper} {shape : WrapperField → FieldShape}
    {α β : Type} {result : List Value → α} {other : List Value → β} {x : Outcome α} {y : Outcome β}
    (hx : h.ReadsTo r w shape result x)
    (hd : ∀ parts, x = .done (result parts) (h.newList parts).2 →
      y = .done (other parts) (h.newList parts).2)
    (hf : ∀ e h, x = .failed e h → y = .failed e h) : h.ReadsTo r w shape other y := by
  obtain ⟨parts, hpre, hend⟩ := hx
  refine ⟨parts, hpre, ?_⟩
  rcases hend with ⟨hk, he⟩ | ⟨f, v, hk, hv, hp, he⟩
  · exact .inl ⟨hk, hd parts he⟩
  · exact .inr ⟨f, v, hk, hv, hp, hf _ _ he⟩

namespace Adapter

variable {m : Machine} {w : Wrapper} {f : WrapperField} {shape : FieldShape} {fuel r : Nat}
variable {h : Heap} {g : Frame} {slot : Nat} {u v : Value} {parts : List Value}
variable {steps : List DecomposeStep} {tail : List Op}

lemma step_pushCall {call : Machine.Caller} (hl : g.eval (.local 0) = pure (.list h.lists.length))
    (hs : g.eval (.local slot) = pure u) :
    m.step call g (pushCall slot) (h.newList parts).2 =
      .done (.next g) (h.newList (parts ++ [u])).2 := by
  apply Machine.step_invoke_none hl (Frame.evalAll_singleton hs)
  rw [Machine.dispatch_list, Machine.listMethod_push, Heap.items_newList_self,
    Heap.setItems_newList]

lemma steps_unwrap {call : Machine.Caller} {qname : QName}
    (hl : g.eval (.local 0) = pure (.list h.lists.length))
    (hv : g.eval (.local slot) = pure (.holder qname u)) (hb : slot + 1 < slotCount) :
    m.steps call g [.invoke (some (slot + 1)) (.local slot)
        ⟨Intrinsic.holderType, Intrinsic.holderValue⟩ [], pushCall (slot + 1)]
      (h.newList parts).2 =
      .done (.next (g.put (slot + 1) u)) (h.newList (parts ++ [u])).2 := by
  have hd : m.dispatch call (.holder qname u) ⟨Intrinsic.holderType, Intrinsic.holderValue⟩ []
      (h.newList parts).2 = .done u (h.newList parts).2 := by
    rw [Machine.dispatch_holder, Machine.holderMethod_value]
  have hread := Machine.step_invoke hv Frame.evalAll_nil hd (show slot + 1 < slotCount by omega)
  have hl' : (g.put (slot + 1) u).eval (.local 0) = pure (.list h.lists.length) :=
    (Frame.eval_local_put_of_ne (by omega)).trans hl
  exact (Machine.steps_cons_next hread).trans
    (Machine.steps_cons_next (step_pushCall hl' Frame.eval_local_put))

section Read

variable (hg : g.params = [.object r]) (hw : w.LoadedIn m) (hf : f ∈ w.fields)
variable (ht : (h.object r).type = w.qualifiedName)
variable (hv : h.field? (.object r) f.name = some v) (hb : slot + 1 < slotCount)
include hg hw hf ht hv hb

lemma step_getter :
    m.step (m.call (fuel + 1)) g (.invoke (some slot) (.param 0) ⟨w.qualifiedName, f.getter⟩ [])
      (h.newList parts).2 = .done (.next (g.put slot v)) (h.newList parts).2 := by
  have hp : g.eval (.param 0) = pure (.object r) := Frame.eval_param (by rw [hg]; rfl)
  apply Machine.step_invoke hp Frame.evalAll_nil
  · exact hw.dispatch_getter hf ht hv
  · omega

lemma steps_decompose_stuck (hp : shape.part? v = none) :
    m.steps (m.call (fuel + 1)) g
      (decomposeOps w.qualifiedName slot (shape.decomposeStep f :: steps) ++ tail)
      (h.newList parts).2 = .failed (.typeMismatch .holder v.kind) (h.newList parts).2 := by
  cases shape with
  | list => simp [FieldShape.part?] at hp
  | single => simp [FieldShape.part?] at hp
  | holder =>
    have hn : v ≠ .null := by
      rintro rfl
      simp [FieldShape.part?] at hp
    have hh (qname : QName) (payload : Value) : v ≠ .holder qname payload := by
      rintro rfl
      simp [FieldShape.part?] at hp
    refine (Machine.steps_cons_next (step_getter hg hw hf ht hv hb)).trans ?_
    apply Machine.steps_cons_failed
    rw [Machine.step_branch_some Frame.eval_local_put hn]
    apply Machine.steps_cons_failed
    apply Machine.step_invoke_failed Frame.eval_local_put Frame.evalAll_nil
    rw [Machine.dispatch_holder, Machine.holderMethod_failed hn hh]

variable (hl : g.eval (.local 0) = pure (.list h.lists.length)) (hs : 0 < slot)
include hl hs

variable (fuel steps tail) in
lemma steps_decompose_read (hp : shape.part? v = some u) :
    ∃ g' slot', g'.params = g.params ∧ g'.eval (.local 0) = pure (.list h.lists.length) ∧
      0 < slot' ∧ slot' ≤ slot + 2 ∧
      m.steps (m.call (fuel + 1)) g
        (decomposeOps w.qualifiedName slot (shape.decomposeStep f :: steps) ++ tail)
        (h.newList parts).2 =
      m.steps (m.call (fuel + 1)) g' (decomposeOps w.qualifiedName slot' steps ++ tail)
        (h.newList (parts ++ [u])).2 := by
  have hl' : (g.put slot v).eval (.local 0) = pure (.list h.lists.length) :=
    (Frame.eval_local_put_of_ne (by omega)).trans hl
  cases shape with
  | list =>
    obtain rfl : v = u := Option.some.inj hp
    refine ⟨g.put slot v, slot + 1, rfl, hl', by omega, by omega, ?_⟩
    exact (Machine.steps_cons_next (step_getter hg hw hf ht hv hb)).trans
      (Machine.steps_cons_next (step_pushCall hl' Frame.eval_local_put))
  | single =>
    obtain rfl : v = u := Option.some.inj hp
    refine ⟨g.put slot v, slot + 1, rfl, hl', by omega, by omega, ?_⟩
    exact (Machine.steps_cons_next (step_getter hg hw hf ht hv hb)).trans
      (Machine.steps_cons_next (step_pushCall hl' Frame.eval_local_put))
  | holder =>
    cases v with
    | null =>
      obtain rfl : Value.null = u := Option.some.inj hp
      refine ⟨g.put slot .null, slot + 2, rfl, hl', by omega, by omega, ?_⟩
      refine (Machine.steps_cons_next (step_getter hg hw hf ht hv hb)).trans ?_
      apply Machine.steps_cons_next
      rw [Machine.step_branch_null Frame.eval_local_put]
      exact Machine.steps_cons_next (step_pushCall hl' Frame.eval_local_put)
    | holder qname payload =>
      obtain rfl : payload = u := Option.some.inj hp
      have hl'' : ((g.put slot (.holder qname payload)).put (slot + 1) payload).eval (.local 0) =
          pure (.list h.lists.length) :=
        (Frame.eval_local_put_of_ne (by omega)).trans hl'
      refine ⟨(g.put slot (.holder qname payload)).put (slot + 1) payload, slot + 2, rfl, hl'',
        by omega, by omega, ?_⟩
      refine (Machine.steps_cons_next (step_getter hg hw hf ht hv hb)).trans ?_
      apply Machine.steps_cons_next
      rw [Machine.step_branch_some Frame.eval_local_put (by simp)]
      exact steps_unwrap hl' Frame.eval_local_put (by omega)
    | _ => simp [FieldShape.part?] at hp

end Read

section Run

variable {shape : WrapperField → FieldShape} {a : Adapter} {p : Nat}

lemma steps_decomposeOps (hw : w.LoadedIn m) (hi : w.InstanceAt h r)
    (hg : g.params = [.object r]) (hl : g.eval (.local 0) = pure (.list h.lists.length))
    (hs : 0 < slot) {fs : List WrapperField} (hfs : w.fields.drop parts.length = fs)
    (hk : parts.length ≤ w.fields.length) (hslot : slot + 2 * fs.length ≤ slotCount)
    (hpre : ∀ i < parts.length, ∀ f v, w.fields[i]? = some f →
      h.field? (.object r) f.name = some v → parts[i]? = (shape f).part? v) :
    h.ReadsTo r w shape (fun _ => .returned (.list h.lists.length))
      (m.steps (m.call (fuel + 1)) g (decomposeOps w.qualifiedName slot
        (fs.map fun f => (shape f).decomposeStep f) ++ [.return (some (.local 0))])
        (h.newList parts).2) := by
  induction fs generalizing parts slot g with
  | nil =>
    have hn : parts.length = w.fields.length :=
      Nat.le_antisymm hk (List.drop_eq_nil_iff.mp hfs)
    exact ⟨parts, hpre, .inl ⟨hn, Machine.steps_cons_returned (Machine.step_return_some hl)⟩⟩
  | cons f rest ih =>
    obtain ⟨hf, hrest⟩ := drop_eq_cons hfs
    have hlt : parts.length < w.fields.length := (List.getElem?_eq_some_iff.mp hf).1
    have hmem := List.mem_of_getElem? hf
    obtain ⟨v, hv⟩ := hi.present f hmem
    simp only [List.map_cons, List.length_cons] at hslot ⊢
    cases hp : (shape f).part? v with
    | none =>
      refine ⟨parts, hpre, .inr ⟨f, v, hf, hv, hp, ?_⟩⟩
      exact steps_decompose_stuck hg hw hmem hi.type hv (by omega) hp
    | some u =>
      obtain ⟨g', slot', hg', hl', hs', hb', hrun⟩ := steps_decompose_read fuel
        (rest.map fun f => (shape f).decomposeStep f) [.return (some (.local 0))] hg hw hmem
        hi.type hv (by omega) hl hs hp
      rw [hrun]
      apply ih (hg'.trans hg) hl' hs'
      · rw [List.length_append, List.length_singleton, hrest]
      · rw [List.length_append, List.length_singleton]
        exact hlt
      · omega
      · intro i hi' f' v' hf' hv'
        rw [List.length_append, List.length_singleton] at hi'
        by_cases hik : i = parts.length
        · subst hik
          obtain rfl := Option.some.inj (hf.symm.trans hf')
          obtain rfl := Option.some.inj (hv.symm.trans hv')
          rw [hp, List.getElem?_concat_length]
        · rw [List.getElem?_append_left (by omega)]
          exact hpre i (by omega) f' v' hf' hv'

lemma call_decompose (hw : w.LoadedIn m) (ha : a.LoadedIn w shape m) (hi : w.InstanceAt h r)
    (hp : (h.object p).type = a.name) (hslot : 2 * w.fields.length < slotCount) :
    h.ReadsTo r w shape (fun _ => .list h.lists.length) (m.invokeWith (m.call (fuel + 2)) (.object p)
      decomposeMethod [.object r] h) := by
  rw [ha.invokeWith hp (d := .ofInstance decomposeMethod
    [.named a.wrapper] (.listOf (.named "any")) a.decomposeBody) rfl]
  let g : Frame := { this := .object p, params := [.object r] }
  have hnew : m.step (m.call (fuel + 1)) g
      (.allocate 0 Intrinsic.listType [.const (.int a.decompose.length)]) h =
      .done (.next (g.put 0 (.list h.lists.length))) (h.newList []).2 :=
    Machine.step_allocate (Frame.evalAll_singleton rfl) Machine.instantiateWith_list (by decide)
  have hrun : h.ReadsTo r w shape (fun _ => .returned (.list h.lists.length))
      (m.steps (m.call (fuel + 1)) (g.put 0 (.list h.lists.length))
        (decomposeOps w.qualifiedName 1 (w.fields.map fun f => (shape f).decomposeStep f) ++
          [.return (some (.local 0))]) (h.newList []).2) :=
    steps_decomposeOps hw hi rfl Frame.eval_local_put Nat.one_pos List.drop_zero (Nat.zero_le _)
      (by omega) (fun i hi => absurd hi (Nat.not_lt_zero i))
  rw [← ha.decompose, ← ha.wrapper] at hrun
  refine hrun.imp (fun parts hs => ?_) (fun e h hs => ?_)
  · exact Machine.call_returned rfl ((Machine.steps_cons_next hnew).trans hs)
  · exact Machine.call_failed rfl ((Machine.steps_cons_next hnew).trans hs)

end Run

end Adapter

namespace AdapterHandle

variable {m : Machine} {w : Wrapper} {shape : WrapperField → FieldShape} {a : Adapter}
variable {handle : AdapterHandle} {h : Heap} {p r : Nat}

lemma decompose_reads (hw : w.LoadedIn m) (ha : a.LoadedIn w shape m)
    (hslots : 2 * w.fields.length < slotCount) (hhandle : handle.instance_ = .object p)
    (hp : (h.object p).type = a.name) (hr : w.InstanceAt h r) :
    h.ReadsTo r w shape id (handle.decompose m (.object r) h) := by
  have hcall : h.ReadsTo r w shape (fun _ => .list h.lists.length)
      (m.invoke (.object p) Adapter.decomposeMethod [.object r] h) :=
    Adapter.call_decompose hw ha hr hp hslots
  refine hcall.imp ?_ ?_
  · intro parts hd
    rw [decompose, hhandle]
    refine (Exec.bind_done hd).trans ?_
    rw [Exec.bind_done (Exec.peek_apply _ _)]
    simp only [Heap.asList?, Heap.items_newList_self, id_eq]
    rfl
  · intro e h' hf
    rw [decompose, hhandle]
    exact Exec.bind_failed hf

end AdapterHandle

end SoapWrap
