import Mathlib.Data.List.Nodup
import Mathlib.Data.List.Perm.Subperm
import SoapWrap.Proofs.Machine.Execution

/-! Fields and methods are looked for along the chain of supertypes. Where the chain has an end, the
searches look at each of its types once; where it has none, they do not end, however long they
run. -/

namespace SoapWrap

namespace Machine

/-- The loaded types from a name on upwards, and the name behind them: that of the root exception,
or one that is not loaded. -/
inductive Climb (m : Machine) : Option String → List TypeDef → Option String → Prop where
  | top : Climb m none [] none
  | root : Climb m (some Intrinsic.exceptionType) [] (some Intrinsic.exceptionType)
  | unloaded {name : String} (hname : name ≠ Intrinsic.exceptionType) (hnone : m.get? name = none) :
    Climb m (some name) [] (some name)
  | loaded {name : String} {d : TypeDef} {above : List TypeDef} {stop : Option String}
    (hname : name ≠ Intrinsic.exceptionType) (hd : m.get? name = some d)
    (habove : Climb m d.supertype above stop) : Climb m (some name) (d :: above) stop

def Undefined (m : Machine) (method : String) : Prop :=
  ∀ d ∈ m.types, d.instanceMethod? method = none

def collected (stop : Option String) (chain : List TypeDef) : Dict Value :=
  chain.foldr (fun d fields => nullFields d.fields fields)
    (if stop = some Intrinsic.exceptionType then
      Dict.empty.insert Intrinsic.exceptionMessage .null
    else .empty)

variable {m : Machine} {d : TypeDef} {name method : String} {above : List TypeDef}
variable {start stop : Option String} {fuel : Nat}

namespace Climb

lemma unique {above' : List TypeDef} {stop' : Option String} (h : m.Climb start above stop)
    (h' : m.Climb start above' stop') : above = above' ∧ stop = stop' := by
  induction h generalizing above' with
  | top =>
    cases h'
    exact ⟨rfl, rfl⟩
  | root =>
    cases h' with
    | root => exact ⟨rfl, rfl⟩
    | unloaded hname => exact absurd rfl hname
    | loaded hname => exact absurd rfl hname
  | unloaded hname hnone =>
    cases h' with
    | root => exact absurd rfl hname
    | unloaded => exact ⟨rfl, rfl⟩
    | loaded _ hd =>
      rw [hnone] at hd
      cases hd
  | loaded hname hd _ ih =>
    cases h' with
    | root => exact absurd rfl hname
    | unloaded _ hnone =>
      rw [hd] at hnone
      cases hnone
    | loaded _ hd' habove' =>
      rw [hd] at hd'
      cases hd'
      obtain ⟨rfl, rfl⟩ := ih habove'
      exact ⟨rfl, rfl⟩

lemma rest_of_mem (h : m.Climb start above stop) (hd : d ∈ above) :
    d.name ≠ Intrinsic.exceptionType ∧ m.get? d.name = some d ∧
      ∃ rest, m.Climb d.supertype rest stop ∧ rest.length < above.length := by
  induction h with
  | top | root | unloaded => cases hd
  | @loaded name e above stop hname he habove ih =>
    rcases List.mem_cons.mp hd with rfl | hd
    · rw [(get?_eq_some he).2]
      exact ⟨hname, he, above, habove, Nat.lt_succ_self _⟩
    · obtain ⟨hname, hget, rest, hrest, hlen⟩ := ih hd
      exact ⟨hname, hget, rest, hrest, Nat.lt_succ_of_lt hlen⟩

lemma nodup (h : m.Climb start above stop) : above.Nodup := by
  induction h with
  | top | root | unloaded => exact List.nodup_nil
  | loaded hname hd habove ih =>
    refine List.nodup_cons.mpr ⟨fun hmem => ?_, ih⟩
    -- A type that comes again has the same types above it both times.
    obtain ⟨-, -, rest, hrest, hlen⟩ := habove.rest_of_mem hmem
    rw [(hrest.unique habove).1] at hlen
    exact Nat.lt_irrefl _ hlen

lemma name_ne (h : m.Climb start above stop) (hd : d ∈ above) :
    d.name ≠ Intrinsic.exceptionType :=
  (h.rest_of_mem hd).1

lemma subset (h : m.Climb start above stop) : above ⊆ m.types :=
  fun _ hd => (get?_eq_some (h.rest_of_mem hd).2.1).1

lemma length_lt (h : m.Climb start above stop) : above.length < m.chainFuel :=
  Nat.lt_succ_of_le (h.nodup.subperm h.subset).length_le

lemma nodup_cons (h : m.Climb d.supertype above stop) (hd : m.get? name = some d) :
    (d :: above).Nodup := by
  by_cases hname : name = Intrinsic.exceptionType
  · refine List.nodup_cons.mpr ⟨fun hmem => h.name_ne hmem ?_, h.nodup⟩
    rw [(get?_eq_some hd).2, hname]
  · exact (Climb.loaded hname hd h).nodup

lemma lookup_eq (h : m.Climb (some name) above stop) (hmethod : m.Undefined method)
    (hfuel : above.length < fuel) :
    m.lookup method fuel name =
      if stop = some Intrinsic.exceptionType ∧ method = Intrinsic.getMessage then .message
      else .missing := by
  generalize hstart : some name = start at h
  induction fuel generalizing name start above with
  | zero => exact absurd hfuel (Nat.not_lt_zero _)
  | succ fuel ih =>
    cases h with
    | top => cases hstart
    | root =>
      cases hstart
      simp [lookup]
    | unloaded hname hnone =>
      cases hstart
      simp [lookup, hname, hnone]
    | @loaded _ d above _ hname hd habove =>
      cases hstart
      have hnot := hmethod d (get?_eq_some hd).1
      cases hparent : d.supertype with
      | none =>
        rw [hparent] at habove
        cases habove
        simp [lookup, hname, hd, hnot, hparent]
      | some parent =>
        simp only [lookup, hname, if_false, hd, hnot, hparent]
        exact ih (Nat.lt_of_succ_lt_succ hfuel) _ hparent.symm habove

lemma fieldsOf_eq (h : m.Climb d.supertype above stop) (hfuel : above.length < fuel) :
    m.fieldsOf fuel d = some (collected stop (d :: above)) := by
  generalize hstart : d.supertype = start at h
  induction fuel generalizing d start above with
  | zero => exact absurd hfuel (Nat.not_lt_zero _)
  | succ fuel ih =>
    cases h with
    | top => simp [fieldsOf, collected, hstart]
    | root => simp [fieldsOf, collected, hstart]
    | unloaded hname hnone => simp [fieldsOf, collected, hstart, hname, hnone]
    | @loaded _ e above _ hname he habove =>
      have hfields := ih (Nat.lt_of_succ_lt_succ hfuel) _ rfl habove
      simp only [fieldsOf, hstart, hname, if_false, he, hfields]
      rfl

end Climb

section Endless

def Endless (m : Machine) (name : String) : Prop := ∀ above stop, ¬ m.Climb (some name) above stop

def Ends (m : Machine) : Prop := ∀ name, ∃ above stop, m.Climb (some name) above stop

lemma Endless.next (h : m.Endless name) : ∃ d parent, name ≠ Intrinsic.exceptionType ∧
    m.get? name = some d ∧ d.supertype = some parent ∧ m.Endless parent := by
  have hname : name ≠ Intrinsic.exceptionType := by
    rintro rfl
    exact h _ _ .root
  cases hd : m.get? name with
  | none => exact absurd (.unloaded hname hd) (h _ _)
  | some d =>
    cases hparent : d.supertype with
    | none =>
      have htop : m.Climb d.supertype [] none := by
        rw [hparent]
        exact .top
      exact absurd (.loaded hname hd htop) (h _ _)
    | some parent =>
      refine ⟨d, parent, hname, rfl, hparent, fun above stop habove => ?_⟩
      exact h _ _ (.loaded hname hd (hparent ▸ habove))

lemma Endless.lookup_eq (h : m.Endless name) (hmethod : m.Undefined method) (fuel : Nat) :
    m.lookup method fuel name = .endless := by
  induction fuel generalizing name with
  | zero => rfl
  | succ fuel ih =>
    obtain ⟨d, parent, hname, hd, hparent, hendless⟩ := h.next
    simp only [lookup, hname, if_false, hd, hmethod d (get?_eq_some hd).1, hparent]
    exact ih hendless

lemma Endless.fieldsOf_eq (h : m.Endless name) (hd : m.get? name = some d) (fuel : Nat) :
    m.fieldsOf fuel d = none := by
  induction fuel generalizing name d with
  | zero => rfl
  | succ fuel ih =>
    obtain ⟨d', parent, -, hd', hparent, hendless⟩ := h.next
    rw [hd] at hd'
    cases hd'
    obtain ⟨e, _, hname, he, _⟩ := hendless.next
    rw [fieldsOf]
    simp only [hparent, hname, if_false, he, ih hendless he]
    rfl

end Endless

/-- Every search along the supertypes ends: it looks at each type of the chain once, for which the
machine has fuel. -/
structure SearchesEnd (m : Machine) : Prop where
  fields : ∀ name d, m.get? name = some d → ∃ above stop, m.Climb d.supertype above stop ∧
    (d :: above).Nodup ∧ above.length < m.chainFuel ∧
    ∀ fuel, above.length < fuel → m.fieldsOf fuel d = some (collected stop (d :: above))
  methods : ∀ ref h, ∃ above stop, m.Climb (some (h.object ref).type) above stop ∧ above.Nodup ∧
    ∀ method, m.Undefined method →
      (∀ fuel, above.length < fuel → m.lookup method fuel (h.object ref).type ≠ .endless) ∧
      ∀ args, m.invoke (.object ref) method args h =
        if stop = some Intrinsic.exceptionType ∧ method = Intrinsic.getMessage then
          .done ((h.field? (.object ref) Intrinsic.exceptionMessage).getD .null) h
        else .failed (.noSuchMethod (h.object ref).type method) h

lemma invoke_of_climb {ref : Nat} {h : Heap}
    (hclimb : m.Climb (some (h.object ref).type) above stop) (hmethod : m.Undefined method)
    (args : List Value) :
    m.invoke (.object ref) method args h =
      if stop = some Intrinsic.exceptionType ∧ method = Intrinsic.getMessage then
        .done ((h.field? (.object ref) Intrinsic.exceptionMessage).getD .null) h
      else .failed (.noSuchMethod (h.object ref).type method) h := by
  have hlookup := hclimb.lookup_eq hmethod hclimb.length_lt
  simp only [invoke, invokeWith, objectRef, Exec.pure_bind]
  rw [Exec.bind_done (Exec.peek_apply _ h), hlookup]
  split <;> rfl

lemma searchesEnd_iff_ends : m.SearchesEnd ↔ m.Ends := by
  constructor
  · intro h name
    obtain ⟨above, stop, hclimb, -⟩ := h.methods 0 { objects := [⟨name, .empty⟩] }
    exact ⟨above, stop, hclimb⟩
  · intro h
    constructor
    · intro name d hd
      suffices ∃ above stop, m.Climb d.supertype above stop by
        obtain ⟨above, stop, hclimb⟩ := this
        exact ⟨above, stop, hclimb, hclimb.nodup_cons hd, hclimb.length_lt,
          fun fuel => hclimb.fieldsOf_eq⟩
      cases d.supertype with
      | none => exact ⟨[], none, .top⟩
      | some parent => exact h parent
    · intro ref k
      obtain ⟨above, stop, hclimb⟩ := h (k.object ref).type
      refine ⟨above, stop, hclimb, hclimb.nodup, fun method hmethod =>
        ⟨fun fuel hfuel => ?_, invoke_of_climb hclimb hmethod⟩⟩
      rw [hclimb.lookup_eq hmethod hfuel]
      split <;> exact Lookup.noConfusion

end Machine

end SoapWrap
