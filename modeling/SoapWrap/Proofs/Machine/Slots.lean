import SoapWrap.Proofs.Machine.Paths

namespace SoapWrap

namespace Frame

variable {f : Frame} {o : Operand} {os : List Operand}

def written (f : Frame) : List Nat := f.locals.map (·.1)

def Safe (f : Frame) (ops : List Op) : Prop := Op.Safe f.params.length f.written ops

lemma exists_eval (h : o.Known f.params.length f.written) : ∃ v, f.eval o = pure v := by
  cases o with
  | this => exact ⟨f.this, rfl⟩
  | const c => exact ⟨c.value, rfl⟩
  | param i => exact ⟨_, eval_param (List.getElem?_eq_getElem h)⟩
  | «local» slot =>
    obtain ⟨⟨slot, v⟩, hentry, rfl⟩ := List.mem_map.mp h
    have hsome : (f.locals.lookup slot).isSome = true :=
      List.lookup_isSome_iff.mpr ⟨_, hentry, beq_self_eq_true slot⟩
    obtain ⟨w, hw⟩ := Option.isSome_iff_exists.mp hsome
    exact ⟨w, eval_local hw⟩

lemma exists_evalAll (h : ∀ o ∈ os, o.Known f.params.length f.written) :
    ∃ vs, f.evalAll os = pure vs := by
  induction os with
  | nil => exact ⟨[], rfl⟩
  | cons o rest ih =>
    rw [List.forall_mem_cons] at h
    obtain ⟨v, hv⟩ := exists_eval h.1
    obtain ⟨vs, hvs⟩ := ih h.2
    exact ⟨v :: vs, by rw [evalAll, hv, Exec.pure_bind, hvs, Exec.pure_bind]⟩

end Frame

namespace Machine

variable {m : Machine} {call : Caller} {f g : Frame} {h k : Heap} {op : Op} {ops rest : List Op}

structure Carries (op : Op) (f g : Frame) : Prop where
  goes : ∀ value, op ≠ .return value
  params_eq : g.params = f.params
  written_eq : g.written = op.slot?.toList ++ f.written

lemma store_next {slot : Nat} {x : Exec Value} (hs : store f slot x h = .done (.next g) k) :
    ∃ v, g = f.put slot v := by
  obtain ⟨v, k', -, hs⟩ := Exec.bind_done_iff.mp hs
  rw [Frame.set] at hs
  split at hs
  · cases hs
    exact ⟨v, rfl⟩
  · cases hs

lemma step_plain_next (hplain : op.branches = [])
    (hs : m.step call f op h = .done (.next g) k) : Carries op f g := by
  cases hslot : op.slot? with
  | some slot =>
    obtain ⟨x, hx, -⟩ := exists_stored m call f hslot
    rw [← Op.withSlot_self hslot, hx] at hs
    obtain ⟨v, rfl⟩ := store_next hs
    refine ⟨?_, rfl, by rw [hslot]; rfl⟩
    rintro value rfl
    cases hslot
  | none =>
    cases op with
    | allocate | readField => cases hslot
    | branchOnNull => cases hplain
    | writeField object field value =>
      obtain ⟨_, _, -, hs⟩ := Exec.bind_done_iff.mp hs
      obtain ⟨_, _, -, hs⟩ := Exec.bind_done_iff.mp hs
      obtain ⟨_, _, -, hs⟩ := Exec.bind_done_iff.mp hs
      cases hs
      exact ⟨by simp, rfl, rfl⟩
    | invoke dst target method args =>
      cases hslot
      obtain ⟨_, _, -, hs⟩ := Exec.bind_done_iff.mp hs
      obtain ⟨_, _, -, hs⟩ := Exec.bind_done_iff.mp hs
      obtain ⟨_, _, -, hs⟩ := Exec.bind_done_iff.mp hs
      cases hs
      exact ⟨by simp, rfl, rfl⟩
    | «return» value =>
      cases value with
      | none => cases hs
      | some o =>
        obtain ⟨_, _, -, hs⟩ := Exec.bind_done_iff.mp hs
        cases hs

lemma safe_plain_next (hplain : op.branches = []) (hs : m.step call f op h = .done (.next g) k)
    (hsafe : f.Safe (op :: rest)) : g.Safe rest := by
  have hg := step_plain_next hplain hs
  rw [Frame.Safe, hg.params_eq, hg.written_eq]
  exact ((Op.safe_plain_iff hplain hg.goes).mp hsafe).2

lemma steps_cons_next_iff : m.steps call f (op :: rest) h = .done (.next g) k ↔
    ∃ f' h', m.step call f op h = .done (.next f') h' ∧
      m.steps call f' rest h' = .done (.next g) k := by
  rw [steps, Exec.bind_done_iff]
  constructor
  · rintro ⟨flow, h', hstep, hrest⟩
    cases flow with
    | next f' => exact ⟨f', h', hstep, hrest⟩
    | returned v => cases hrest
  · rintro ⟨f', h', hstep, hrest⟩
    exact ⟨.next f', h', hstep, hrest⟩

lemma steps_cons_failed_iff {e : RunError} : m.steps call f (op :: rest) h = .failed e k ↔
    m.step call f op h = .failed e k ∨
      ∃ g h', m.step call f op h = .done (.next g) h' ∧ m.steps call g rest h' = .failed e k := by
  rw [steps, Exec.bind_failed_iff]
  refine or_congr_right ?_
  constructor
  · rintro ⟨flow, h', hstep, hrest⟩
    cases flow with
    | next g => exact ⟨g, h', hstep, hrest⟩
    | returned v => cases hrest
  · rintro ⟨g, h', hstep, hrest⟩
    exact ⟨.next g, h', hstep, hrest⟩

section Branch

variable {value : Operand} {v : Value} {as bs : List Op}

lemma step_branch_eq (hv : f.eval value = pure v) :
    m.step call f (.branchOnNull value as bs) =
      m.steps call f (if v.isNull then as else bs) := by
  rw [step, hv, Exec.pure_bind]
  split <;> rfl

lemma safe_branch (hsafe : f.Safe (.branchOnNull value as bs :: rest)) (v : Value) :
    f.Safe ((if v.isNull then as else bs) ++ rest) := by
  obtain ⟨-, has, hbs⟩ := Op.safe_branch_iff.mp hsafe
  split
  · exact has
  · exact hbs

end Branch

-- What comes behind the operations is safe for both branches, so that the recursion carries it along.
mutual
lemma safe_step_next (rest : List Op) : (op : Op) → (f g : Frame) → (h k : Heap) →
    m.step call f op h = .done (.next g) k → f.Safe (op :: rest) → g.Safe rest
  | .branchOnNull value as bs, f, g, h, k, hs, hsafe => by
    obtain ⟨v, hv⟩ := Frame.exists_eval (Op.safe_branch_iff.mp hsafe).1
    have hbranch := safe_branch hsafe v
    rw [step_branch_eq hv] at hs
    cases hnull : v.isNull with
    | true =>
      rw [hnull, if_pos rfl] at hs hbranch
      exact safe_steps_next rest as f g h k hs hbranch
    | false =>
      rw [hnull, if_neg Bool.false_ne_true] at hs hbranch
      exact safe_steps_next rest bs f g h k hs hbranch
  | .allocate .., _, _, _, _, hs, hsafe | .readField .., _, _, _, _, hs, hsafe
  | .writeField .., _, _, _, _, hs, hsafe | .invoke .., _, _, _, _, hs, hsafe
  | .return .., _, _, _, _, hs, hsafe => safe_plain_next rfl hs hsafe
lemma safe_steps_next (rest : List Op) : (ops : List Op) → (f g : Frame) → (h k : Heap) →
    m.steps call f ops h = .done (.next g) k → f.Safe (ops ++ rest) → g.Safe rest
  | [], f, g, h, k, hs, hsafe => by
    rw [steps_nil] at hs
    cases hs
    exact hsafe
  | op :: more, f, g, h, k, hs, hsafe => by
    obtain ⟨f', h', hstep, hmore⟩ := steps_cons_next_iff.mp hs
    have hsafe' := safe_step_next (more ++ rest) op f f' h h' hstep hsafe
    exact safe_steps_next rest more f' g h' k hmore hsafe'
end

structure Site where
  frame : Frame
  heap : Heap
  op : Op

inductive Visits (m : Machine) (call : Caller) : Frame → Heap → List Op → Site → Prop
  | here {f : Frame} {h : Heap} {op : Op} {rest : List Op} :
    Visits m call f h (op :: rest) ⟨f, h, op⟩
  | later {f g : Frame} {h k : Heap} {op : Op} {rest : List Op} {s : Site}
    (hstep : m.step call f op h = .done (.next g) k) (hs : Visits m call g k rest s) :
    Visits m call f h (op :: rest) s
  | inside {f : Frame} {h : Heap} {value : Operand} {v : Value} {as bs rest : List Op} {s : Site}
    (hv : f.eval value = pure v) (hs : Visits m call f h (if v.isNull then as else bs) s) :
    Visits m call f h (.branchOnNull value as bs :: rest) s

lemma Visits.sound {s : Site} (hs : m.Visits call f h ops s) (hsafe : f.Safe (ops ++ rest)) :
    s.op.Sound s.frame.params.length s.frame.written := by
  induction hs generalizing rest with
  | here => exact Op.Safe.sound hsafe
  | later hstep _ ih => exact ih (safe_step_next _ _ _ _ _ _ hstep hsafe)
  | inside _ _ ih =>
    rw [List.cons_append] at hsafe
    exact ih (safe_branch hsafe _)

def FailsInCall (m : Machine) (call : Caller) (f : Frame) (h : Heap) (ops : List Op) (e : RunError)
    (k : Heap) : Prop :=
  ∃ s n, m.Visits call f h ops s ∧ m.Enters s.frame s.heap s.op n ∧ n.run call = .failed e k

section Errors

variable {e : RunError}

lemma set_ne_failed (f : Frame) (slot : Nat) (v : Value) :
    (f.set slot v >>= fun f => pure (Flow.next f)) h ≠ .failed e k := by
  rw [Frame.set]
  split <;> rintro ⟨⟩

lemma step_plain_failed (he : e.OfOperand) (hplain : op.branches = [])
    (hknown : ∀ o ∈ op.operands, o.Known f.params.length f.written)
    (hs : m.step call f op h = .failed e k) : ∃ n, m.Enters f h op n ∧ n.run call = .failed e k := by
  cases op with
  | allocate dst type os =>
    obtain ⟨args, hargs⟩ : ∃ args, f.evalAll os = pure args := Frame.exists_evalAll hknown
    rw [step, hargs, Exec.pure_bind, Exec.bind_failed_iff] at hs
    rcases hs with hs | ⟨v, k', -, hs⟩
    · obtain ⟨n, hn, hrun⟩ := instantiateWith_failed he hs
      exact ⟨n, .allocate hargs hn, hrun⟩
    · exact absurd hs (set_ne_failed f dst v)
  | readField dst object field =>
    obtain ⟨v, hv⟩ := Frame.exists_eval (hknown object List.mem_cons_self)
    rw [step, hv, Exec.pure_bind, Exec.bind_failed_iff] at hs
    rcases hs with hs | ⟨w, k', -, hs⟩
    · exact absurd hs (own_readField.ne_failed he)
    · exact absurd hs (set_ne_failed f dst w)
  | writeField object field value =>
    obtain ⟨v, hv⟩ := Frame.exists_eval (hknown object (by simp [Op.operands]))
    obtain ⟨w, hw⟩ := Frame.exists_eval (hknown value (by simp [Op.operands]))
    rw [step, hv, Exec.pure_bind, hw, Exec.pure_bind] at hs
    exact absurd hs ((own_writeField.bind fun _ => .pure _).ne_failed he)
  | invoke dst target method os =>
    obtain ⟨htarget, hos⟩ := List.forall_mem_cons.mp hknown
    obtain ⟨v, hv⟩ := Frame.exists_eval htarget
    obtain ⟨args, hargs⟩ := Frame.exists_evalAll hos
    rw [step, hv, Exec.pure_bind, hargs, Exec.pure_bind, Exec.bind_failed_iff] at hs
    rcases hs with hs | ⟨w, k', -, hs⟩
    · obtain ⟨n, hn, hrun⟩ := dispatch_failed he hs
      exact ⟨n, .invoke hv hargs hn, hrun⟩
    · cases dst with
      | none => cases hs
      | some dst => exact absurd hs (set_ne_failed f dst w)
  | branchOnNull => cases hplain
  | «return» value =>
    cases value with
    | none => cases hs
    | some o =>
      obtain ⟨v, hv⟩ := Frame.exists_eval (hknown o List.mem_cons_self)
      rw [step, hv, Exec.pure_bind] at hs
      cases hs

lemma failsInCall_plain (he : e.OfOperand) (more : List Op) (hplain : op.branches = [])
    (hs : m.step call f op h = .failed e k) (hsafe : f.Safe (op :: rest)) :
    m.FailsInCall call f h (op :: more) e k := by
  obtain ⟨n, hn⟩ := step_plain_failed he hplain (Op.Safe.sound hsafe).known hs
  exact ⟨_, n, .here, hn⟩

-- The branch that is run is told apart so that the recursion is seen to be over a part.
mutual
lemma step_failed (he : e.OfOperand) (rest more : List Op) : (op : Op) → (f : Frame) → (h : Heap) →
    m.step call f op h = .failed e k → f.Safe (op :: rest) →
    m.FailsInCall call f h (op :: more) e k
  | .branchOnNull value as bs, f, h, hs, hsafe => by
    obtain ⟨v, hv⟩ := Frame.exists_eval (Op.safe_branch_iff.mp hsafe).1
    have hbranch := safe_branch hsafe v
    rw [step_branch_eq hv] at hs
    have hinside : m.FailsInCall call f h (if v.isNull then as else bs) e k := by
      cases hnull : v.isNull with
      | true =>
        rw [hnull, if_pos rfl] at hs hbranch
        exact steps_failed he rest as f h hs hbranch
      | false =>
        rw [hnull, if_neg Bool.false_ne_true] at hs hbranch
        exact steps_failed he rest bs f h hs hbranch
    obtain ⟨s, n, hvisits, hn⟩ := hinside
    exact ⟨s, n, .inside hv hvisits, hn⟩
  | .allocate .., _, _, hs, hsafe | .readField .., _, _, hs, hsafe
  | .writeField .., _, _, hs, hsafe | .invoke .., _, _, hs, hsafe
  | .return .., _, _, hs, hsafe => failsInCall_plain he more rfl hs hsafe
lemma steps_failed (he : e.OfOperand) (rest : List Op) : (ops : List Op) → (f : Frame) → (h : Heap) →
    m.steps call f ops h = .failed e k → f.Safe (ops ++ rest) → m.FailsInCall call f h ops e k
  | [], f, h, hs, _ => by
    rw [steps_nil] at hs
    cases hs
  | op :: more, f, h, hs, hsafe => by
    rcases steps_cons_failed_iff.mp hs with hs | ⟨g, h', hstep, hs⟩
    · exact step_failed he (more ++ rest) more op f h hs hsafe
    · have hsafe' := safe_step_next (more ++ rest) op f g h h' hstep hsafe
      obtain ⟨s, n, hvisits, hn⟩ := steps_failed he rest more g h' hs hsafe'
      exact ⟨s, n, .later hstep hvisits, hn⟩
end

end Errors

end Machine

end SoapWrap
