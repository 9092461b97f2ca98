import SoapWrap.Proofs.Machine.Execution

/-! How computations end that are put together: within machine words or not, for want of an operand or
not, and without regard to the heap or not. Field access and the methods of lists and holders end of
their own; operands leave the words just where a parameter of the last number is missing. -/

namespace SoapWrap

inductive RunError.OfOperand : RunError → Prop
  | slot (slot : Nat) : OfOperand (.unsetLocal slot)
  | param (expected got : Nat) : OfOperand (.arityMismatch "<param>" expected got)

lemma RunError.not_ofOperand_arity {method : String} {expected got : Nat}
    (h : method ≠ "<param>") : ¬ (RunError.arityMismatch method expected got).OfOperand := by
  generalize he : RunError.arityMismatch method expected got = e
  rintro (_ | _) <;> cases he
  exact h rfl

inductive Outcome.Own {α : Type} : Outcome α → Prop
  | done {a : α} {h : Heap} : Own (.done a h)
  | failed {e : RunError} {h : Heap} (he : ¬ e.OfOperand) : Own (.failed e h)
  | deep : Own (.exceeded .depth)

namespace Exec

variable {α β : Type} {x : Exec α} {g : α → Exec β} {h : Heap} {l : Limit}

lemma bind_assoc {γ : Type} (x : Exec α) (g : α → Exec β) (r : β → Exec γ) :
    (x >>= g >>= r) = (x >>= fun a => g a >>= r) := by
  funext h
  change bind (bind x g) r h = bind x (fun a => bind (g a) r) h
  simp only [bind]
  cases x h <;> rfl

lemma exists_done_iff {a : α} {p : α → Heap → Prop} :
    (∃ b k, Outcome.done a h = .done b k ∧ p b k) ↔ p a h := by
  simp only [Outcome.done.injEq, and_assoc, exists_and_left, exists_eq_left']

lemma bind_exceeded_iff : (x >>= g) h = .exceeded l ↔
    x h = .exceeded l ∨ ∃ a k, x h = .done a k ∧ g a k = .exceeded l := by
  change bind x g h = _ ↔ _
  cases hx : x h with
  | done => simp only [bind, hx, reduceCtorEq, false_or, exists_done_iff]
  | failed | exceeded => simp [bind, hx]

lemma bind_failed_iff {e : RunError} {k : Heap} : (x >>= g) h = .failed e k ↔
    x h = .failed e k ∨ ∃ a k', x h = .done a k' ∧ g a k' = .failed e k := by
  change bind x g h = _ ↔ _
  cases hx : x h with
  | done => simp only [bind, hx, reduceCtorEq, false_or, exists_done_iff]
  | failed | exceeded => simp [bind, hx]

lemma bind_done_iff {b : β} {k : Heap} : (x >>= g) h = .done b k ↔
    ∃ a k', x h = .done a k' ∧ g a k' = .done b k := by
  change bind x g h = _ ↔ _
  cases hx : x h with
  | done => simp only [bind, hx, exists_done_iff]
  | failed | exceeded => simp [bind, hx]

def InWords (x : Exec α) : Prop := ∀ h, x h ≠ .exceeded .word

namespace InWords

lemma pure (a : α) : InWords (Pure.pure a : Exec α) := fun _ h => by cases h

lemma fail (e : RunError) : InWords (Exec.fail e : Exec α) := fun _ h => by cases h

end InWords

def Own (x : Exec α) : Prop := ∀ h, (x h).Own

namespace Own

lemma pure (a : α) : Own (Pure.pure a : Exec α) := fun _ => .done

lemma fail {e : RunError} (he : ¬ e.OfOperand) : Own (Exec.fail e : Exec α) := fun _ => .failed he

lemma peek (r : Heap → α) : Own (Exec.peek r) := fun _ => .done

lemma modify (r : Heap → Heap) : Own (Exec.modify r) := fun _ => .done

lemma bind (hx : Own x) (hg : ∀ a, Own (g a)) : Own (x >>= g) := by
  intro h
  have hown := hx h
  cases hxh : x h with
  | done a k =>
    rw [bind_done hxh]
    exact hg a k
  | failed e k =>
    rw [hxh] at hown
    rw [bind_failed hxh]
    cases hown with
    | failed he => exact .failed he
  | exceeded l =>
    rw [hxh] at hown
    rw [bind_exceeded_iff.mpr (.inl hxh)]
    cases hown
    exact .deep

lemma inWords (hx : Own x) : InWords x := by
  intro h hexceeded
  have hown := hx h
  rw [hexceeded] at hown
  cases hown

lemma ne_failed {e : RunError} {k : Heap} (hx : Own x) (he : e.OfOperand) : x h ≠ .failed e k := by
  intro hfailed
  have hown := hx h
  rw [hfailed] at hown
  cases hown with
  | failed hnot => exact hnot he

end Own

/-- The computation neither reads nor changes the heap. -/
inductive Heapless : Exec α → Prop where
  | pure (a : α) : Heapless (Pure.pure a)
  | fail (e : RunError) : Heapless (Exec.fail e)
  | exceed (l : Limit) : Heapless (Exec.exceed l)

namespace Heapless

lemma done_iff {a : α} {k : Heap} (hx : Heapless x) :
    x h = .done a k ↔ x = Pure.pure a ∧ k = h := by
  constructor
  · intro hdone
    cases hx <;> cases hdone
    exact ⟨rfl, rfl⟩
  · rintro ⟨rfl, rfl⟩
    rfl

lemma bind (hx : Heapless x) (hg : ∀ a, Heapless (g a)) : Heapless (x >>= g) := by
  cases hx with
  | pure a => exact hg a
  | fail e => exact .fail e
  | exceed l => exact .exceed l

lemma bind_exceeded_iff (hx : Heapless x) : (x >>= g) h = .exceeded l ↔
    x h = .exceeded l ∨ ∃ a, x = Pure.pure a ∧ g a h = .exceeded l := by
  rw [Exec.bind_exceeded_iff]
  refine or_congr_right ?_
  constructor
  · rintro ⟨a, k, hdone, hexceeded⟩
    obtain ⟨ha, rfl⟩ := hx.done_iff.mp hdone
    exact ⟨a, ha, hexceeded⟩
  · rintro ⟨a, ha, hexceeded⟩
    exact ⟨a, h, hx.done_iff.mpr ⟨ha, rfl⟩, hexceeded⟩

end Heapless

end Exec

namespace Machine

section Builtins

variable {target v : Value} {field method what : String} {args items : List Value} {ref : Nat}

lemma own_objectRef : (objectRef v what).Own := by
  cases v with
  | object ref => exact .pure ref
  | _ => exact .fail (by rintro ⟨⟩)

lemma own_readField : (readField v field).Own := by
  refine .bind own_objectRef fun ref => .bind (.peek _) fun o => ?_
  split
  · exact .pure _
  · exact .fail (by rintro ⟨⟩)

lemma own_writeField {w : Value} : (writeField v field w).Own := by
  refine .bind own_objectRef fun ref => .bind (.peek _) fun o => ?_
  split
  · exact .modify _
  · exact .fail (by rintro ⟨⟩)

lemma own_getItem : (getItem items args).Own := by
  unfold getItem
  split
  · exact .fail (RunError.not_ofOperand_arity (by decide))
  · split
    · exact .pure _
    · exact .fail (by rintro ⟨⟩)
  · exact .fail (by rintro ⟨⟩)

lemma own_addAll : (addAll ref args).Own := by
  unfold addAll
  split
  · exact .pure _
  · exact .pure _
  · exact .bind (.modify _) fun _ => .pure _
  · exact .fail (by rintro ⟨⟩)

lemma own_listMethod : (listMethod target method args).Own := by
  unfold listMethod
  split
  · exact .fail (by rintro ⟨⟩)
  · split
    · exact .bind (.peek _) fun _ => own_getItem
    split
    · exact own_addAll
    split
    · exact .bind (.modify _) fun _ => .pure _
    split
    · exact .bind (.peek _) fun _ => .pure _
    · exact .fail (by rintro ⟨⟩)
  · exact .fail (by rintro ⟨⟩)

lemma own_holderMethod : (holderMethod target method).Own := by
  unfold holderMethod
  split
  · exact .fail (by rintro ⟨⟩)
  · split
    · exact .pure _
    · exact .fail (by rintro ⟨⟩)
  · exact .fail (by rintro ⟨⟩)

end Builtins

end Machine

namespace Frame

variable {f : Frame} {o : Operand} {os : List Operand} {h : Heap}

/-- A parameter is read that is not there, and behind whose number there is none. -/
inductive Overreads (f : Frame) : List Operand → Prop where
  | here {i : Nat} {rest : List Operand} (hmissing : f.params.length ≤ i)
    (hwide : wordCount ≤ i + 1) : Overreads f (.param i :: rest)
  | later {o : Operand} {v : Value} {rest : List Operand} (ho : f.eval o = pure v)
    (hrest : Overreads f rest) : Overreads f (o :: rest)

lemma heapless_eval (f : Frame) (o : Operand) : (f.eval o).Heapless := by
  cases o with
  | this => exact .pure _
  | const c => exact .pure _
  | «local» slot =>
    cases hslot : f.locals.lookup slot with
    | some v =>
      rw [eval_local hslot]
      exact .pure v
    | none =>
      simp only [eval, hslot]
      exact .fail _
  | param i =>
    cases hparam : f.params[i]? with
    | some v =>
      rw [eval_param hparam]
      exact .pure v
    | none =>
      simp only [eval, hparam]
      split
      · exact .fail _
      · exact .exceed _

lemma heapless_evalAll (f : Frame) (os : List Operand) : (f.evalAll os).Heapless := by
  induction os with
  | nil => exact .pure []
  | cons o rest ih => exact .bind (f.heapless_eval o) fun v => .bind ih fun vs => .pure (v :: vs)

lemma eval_exceeded_iff : f.eval o h = .exceeded .word ↔ f.Overreads [o] := by
  constructor
  · intro hexceeded
    cases o with
    | this | const => cases hexceeded
    | «local» slot =>
      cases hslot : f.locals.lookup slot with
      | some v =>
        rw [eval_local hslot] at hexceeded
        cases hexceeded
      | none =>
        simp only [eval, hslot] at hexceeded
        cases hexceeded
    | param i =>
      cases hparam : f.params[i]? with
      | some v =>
        rw [eval_param hparam] at hexceeded
        cases hexceeded
      | none =>
        simp only [eval, hparam] at hexceeded
        split at hexceeded
        · cases hexceeded
        · next hwide =>
          exact .here (List.getElem?_eq_none_iff.mp hparam) (Nat.le_of_not_lt hwide)
  · intro hover
    cases hover with
    | here hmissing hwide =>
      simp only [eval, List.getElem?_eq_none hmissing, if_neg (Nat.not_lt.mpr hwide)]
      rfl
    | later _ hrest => cases hrest

lemma overreads_cons_iff :
    f.Overreads (o :: os) ↔ f.Overreads [o] ∨ (∃ v, f.eval o = pure v) ∧ f.Overreads os := by
  constructor
  · intro hover
    cases hover with
    | here hmissing hwide => exact .inl (.here hmissing hwide)
    | later ho hrest => exact .inr ⟨⟨_, ho⟩, hrest⟩
  · rintro (hover | ⟨⟨v, ho⟩, hrest⟩)
    · cases hover with
      | here hmissing hwide => exact .here hmissing hwide
      | later _ hrest => cases hrest
    · exact .later ho hrest

lemma evalAll_exceeded_iff : f.evalAll os h = .exceeded .word ↔ f.Overreads os := by
  induction os with
  | nil =>
    constructor
    · intro hexceeded
      cases hexceeded
    · intro hover
      cases hover
  | cons o rest ih =>
    rw [evalAll, (f.heapless_eval o).bind_exceeded_iff, eval_exceeded_iff,
      @overreads_cons_iff f o rest]
    refine or_congr_right ?_
    constructor
    · rintro ⟨v, ho, hexceeded⟩
      rcases Exec.bind_exceeded_iff.mp hexceeded with hexceeded | ⟨_, _, -, hexceeded⟩
      · exact ⟨⟨v, ho⟩, ih.mp hexceeded⟩
      · cases hexceeded
    · rintro ⟨⟨v, ho⟩, hrest⟩
      exact ⟨v, ho, Exec.bind_exceeded_iff.mpr (.inl (ih.mpr hrest))⟩

end Frame

end SoapWrap
