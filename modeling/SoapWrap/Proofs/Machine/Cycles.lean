import Mathlib.Logic.Relation
import SoapWrap.Proofs.Machine.Ancestry

/-! The searches along the supertypes end just as long as no type closes a cycle when it is loaded.
Neither the requests in between nor the order of the types make a difference. -/

namespace SoapWrap

namespace Machine

variable {m m' : Machine} {d : TypeDef} {name parent : String} {above : List TypeDef}
variable {start stop : Option String}

section Emission

open Relation

def Extends (m : Machine) (name parent : String) : Prop :=
  name ≠ Intrinsic.exceptionType ∧ ∃ d, m.get? name = some d ∧ d.supertype = some parent

def Closes (m : Machine) (d : TypeDef) : Prop :=
  d.name ≠ Intrinsic.exceptionType ∧
    ∃ parent, d.supertype = some parent ∧ ReflTransGen m.Extends parent d.name

lemma Climb.of_extends (h : m.Climb (some name) above stop) (hext : m.Extends name parent) :
    ∃ rest, m.Climb (some parent) rest stop ∧ rest.length < above.length := by
  obtain ⟨hname, d, hd, hparent⟩ := hext
  cases h with
  | root => exact absurd rfl hname
  | unloaded _ hnone =>
    rw [hd] at hnone
    cases hnone
  | @loaded _ e rest _ _ he habove =>
    rw [hd] at he
    cases he
    exact ⟨rest, hparent ▸ habove, Nat.lt_succ_self _⟩

lemma Climb.of_transGen (h : m.Climb (some name) above stop)
    (hgen : TransGen m.Extends name parent) :
    ∃ rest, m.Climb (some parent) rest stop ∧ rest.length < above.length := by
  induction hgen with
  | single hext => exact h.of_extends hext
  | tail _ hext ih =>
    obtain ⟨rest, hrest, hlen⟩ := ih
    obtain ⟨last, hlast, hless⟩ := hrest.of_extends hext
    exact ⟨last, hlast, Nat.lt_trans hless hlen⟩

lemma Climb.not_cyclic (h : m.Climb (some name) above stop) : ¬ TransGen m.Extends name name := by
  intro hgen
  obtain ⟨rest, hrest, hlen⟩ := h.of_transGen hgen
  rw [(hrest.unique h).1] at hlen
  exact Nat.lt_irrefl _ hlen

lemma endless_of_cyclic (h : TransGen m.Extends name name) : m.Endless name :=
  fun _ _ hclimb => hclimb.not_cyclic h

lemma Climb.congr (h : m.Climb start above stop)
    (hagree : ∀ name, start = some name → ∀ other, ReflTransGen m.Extends name other →
      m'.get? other = m.get? other) :
    m'.Climb start above stop := by
  induction h with
  | top => exact .top
  | root => exact .root
  | @unloaded name hname hnone => exact .unloaded hname ((hagree name rfl name .refl).trans hnone)
  | @loaded name d above stop hname hd habove ih =>
    refine .loaded hname ((hagree name rfl name .refl).trans hd) (ih ?_)
    intro parent hparent other hreach
    exact hagree name rfl other (.head ⟨hname, d, hd, hparent⟩ hreach)

lemma get?_of_emit (h : m.emit d = .ok m') : m.get? d.name = none ∧
    ∀ name, m'.get? name = if name = d.name then some d else m.get? name := by
  rw [emit, contains] at h
  split at h
  · cases h
  · next hnone =>
    cases h
    rw [Option.not_isSome_iff_eq_none] at hnone
    refine ⟨hnone, fun name => ?_⟩
    rw [get?, List.find?_append, List.find?_singleton]
    by_cases hname : name = d.name
    · subst hname
      rw [get?] at hnone
      simp [hnone]
    · have hne : ¬ d.name = name := fun h => hname h.symm
      simp [hname, hne, get?]

variable (hemit : m.emit d = .ok m')
include hemit

lemma Climb.before_emit (h : m'.Climb start above stop) :
    ∃ above stop, m.Climb start above stop := by
  -- A chain that comes to the new type has stopped there before, at a name that was not loaded.
  obtain ⟨hfresh, hget⟩ := get?_of_emit hemit
  induction h with
  | top => exact ⟨_, _, .top⟩
  | root => exact ⟨_, _, .root⟩
  | unloaded hname hnone =>
    rw [hget] at hnone
    split at hnone
    · cases hnone
    · exact ⟨_, _, .unloaded hname hnone⟩
  | loaded hname he _ ih =>
    rw [hget] at he
    split at he
    · next hself => exact ⟨_, _, .unloaded hname (hself ▸ hfresh)⟩
    · obtain ⟨above, stop, habove⟩ := ih
      exact ⟨_, _, .loaded hname he habove⟩

lemma Extends.after_emit (h : m.Extends name parent) : m'.Extends name parent := by
  obtain ⟨hfresh, hget⟩ := get?_of_emit hemit
  obtain ⟨hname, e, he, hparent⟩ := h
  have hne : name ≠ d.name := by
    rintro rfl
    rw [hfresh] at he
    cases he
  exact ⟨hname, e, by rw [hget, if_neg hne, he], hparent⟩

lemma not_closes_of_ends (h : m'.Ends) : ¬ m.Closes d := by
  rintro ⟨hname, parent, hparent, hreach⟩
  obtain ⟨above, stop, hclimb⟩ := h d.name
  have hself : m'.Extends d.name parent :=
    ⟨hname, d, by rw [(get?_of_emit hemit).2, if_pos rfl], hparent⟩
  have hback := ReflTransGen.mono (fun _ _ => Extends.after_emit hemit) _ _ hreach
  exact hclimb.not_cyclic (.head' hself hback)

lemma exists_climb_emitted (h : m.Ends) (hcloses : ¬ m.Closes d) :
    ∃ above stop, m'.Climb (some d.name) above stop := by
  obtain ⟨-, hget⟩ := get?_of_emit hemit
  by_cases hname : d.name = Intrinsic.exceptionType
  · rw [hname]
    exact ⟨_, _, .root⟩
  have hself : m'.get? d.name = some d := by rw [hget, if_pos rfl]
  suffices ∃ above stop, m'.Climb d.supertype above stop by
    obtain ⟨above, stop, habove⟩ := this
    exact ⟨_, _, .loaded hname hself habove⟩
  cases hparent : d.supertype with
  | none => exact ⟨_, _, .top⟩
  | some parent =>
    obtain ⟨above, stop, habove⟩ := h parent
    refine ⟨above, stop, habove.congr fun name hstart other hreach => ?_⟩
    -- The types above the new one are as they were, since none of them goes by its name.
    cases hstart
    have hne : other ≠ d.name := by
      rintro rfl
      exact hcloses ⟨hname, parent, hparent, hreach⟩
    rw [hget, if_neg hne]

lemma Climb.after_emit (h : m.Climb start above stop)
    (hself : ∃ above stop, m'.Climb (some d.name) above stop) :
    ∃ above stop, m'.Climb start above stop := by
  obtain ⟨-, hget⟩ := get?_of_emit hemit
  induction h with
  | top => exact ⟨_, _, .top⟩
  | root => exact ⟨_, _, .root⟩
  | @unloaded name hname hnone =>
    by_cases hnew : name = d.name
    · exact hnew ▸ hself
    · exact ⟨_, _, .unloaded hname (by rw [hget, if_neg hnew, hnone])⟩
  | @loaded name e _ _ hname he _ ih =>
    by_cases hnew : name = d.name
    · exact hnew ▸ hself
    · obtain ⟨above, stop, habove⟩ := ih
      exact ⟨_, _, .loaded hname (by rw [hget, if_neg hnew, he]) habove⟩

lemma ends_emit_iff : m'.Ends ↔ m.Ends ∧ ¬ m.Closes d := by
  constructor
  · refine fun h => ⟨fun name => ?_, not_closes_of_ends hemit h⟩
    obtain ⟨above, stop, hclimb⟩ := h name
    exact hclimb.before_emit hemit
  · rintro ⟨h, hcloses⟩ name
    obtain ⟨above, stop, hclimb⟩ := h name
    exact hclimb.after_emit hemit (exists_climb_emitted hemit h hcloses)

end Emission

section Requests

inductive Request where
  | emit (d : TypeDef)
  | declareExternal (name : String)
  | newList (items : List Value)
  | newObject (o : Object)
  | instantiate (type : String) (args : List Value)
  | invoke (target : Value) (method : String) (args : List Value)

def heapAfter? : Outcome Value → Option Heap
  | .done _ h => some h
  | .failed _ h => some h
  | .exceeded _ => none

/-- The machine and the heap after a request; none where a type is refused, and where what is run
has no end. -/
def perform (s : Machine × Heap) : Request → Option (Machine × Heap)
  | .emit d =>
    match s.1.emit d with
    | .ok m => some (m, s.2)
    | .error _ => none
  | .declareExternal name => some (s.1.declareExternal name, s.2)
  | .newList items => some (s.1, (s.2.newList items).2)
  | .newObject o => some (s.1, (s.2.newObject o).2)
  | .instantiate type args => (heapAfter? (s.1.instantiate type args s.2)).map (s.1, ·)
  | .invoke target method args => (heapAfter? (s.1.invoke target method args s.2)).map (s.1, ·)

def NoneCloses (s : Machine × Heap) (requests : List Request) : Prop :=
  ∀ before d after, requests = before ++ .emit d :: after →
    ∀ t, before.foldlM perform s = some t → ¬ t.1.Closes d

variable {s t : Machine × Heap} {r : Request} {requests rest : List Request} {h : Heap}

lemma noneCloses_nil : NoneCloses s [] := by
  intro before d after hsplit
  simp at hsplit

lemma noneCloses_cons (hstep : perform s r = some t) : NoneCloses s (r :: rest) ↔
    (∀ d, r = .emit d → ¬ s.1.Closes d) ∧ NoneCloses t rest := by
  constructor
  · refine fun h => ⟨fun d hr => ?_, fun before d after hsplit u hu => ?_⟩
    · exact h [] d rest (by rw [hr, List.nil_append]) s rfl
    · refine h (r :: before) d after (by rw [hsplit, List.cons_append]) u ?_
      rw [List.foldlM_cons, hstep]
      exact hu
  · rintro ⟨hfirst, hrest⟩ before d after hsplit u hu
    cases before with
    | nil =>
      obtain ⟨rfl, rfl⟩ := List.cons.inj hsplit
      cases hu
      exact hfirst d rfl
    | cons r' before =>
      obtain ⟨rfl, rfl⟩ := List.cons.inj hsplit
      rw [List.foldlM_cons, hstep] at hu
      exact hrest before d after rfl u hu

lemma Ends.of_get?_eq (h : m.Ends) (hget : ∀ name, m'.get? name = m.get? name) : m'.Ends := by
  intro name
  obtain ⟨above, stop, hclimb⟩ := h name
  exact ⟨above, stop, hclimb.congr fun _ _ other _ => hget other⟩

lemma ends_perform_iff (hstep : perform s r = some t) :
    t.1.Ends ↔ s.1.Ends ∧ ∀ d, r = .emit d → ¬ s.1.Closes d := by
  cases r with
  | emit d =>
    rw [perform] at hstep
    split at hstep
    · next m hemit =>
      cases hstep
      rw [ends_emit_iff hemit]
      simp
    · cases hstep
  | declareExternal name =>
    cases hstep
    simp only [reduceCtorEq, false_implies, implies_true, and_true]
    exact ⟨fun h => h.of_get?_eq fun _ => rfl, fun h => h.of_get?_eq fun _ => rfl⟩
  | newList | newObject =>
    cases hstep
    simp
  | instantiate | invoke =>
    obtain ⟨h, -, rfl⟩ := Option.map_eq_some_iff.mp hstep
    simp

lemma ends_run_iff (hrun : requests.foldlM perform s = some t) :
    t.1.Ends ↔ s.1.Ends ∧ NoneCloses s requests := by
  induction requests generalizing s with
  | nil =>
    cases hrun
    exact (and_iff_left noneCloses_nil).symm
  | cons r rest ih =>
    rw [List.foldlM_cons] at hrun
    obtain ⟨u, hstep, hrest⟩ := Option.bind_eq_some_iff.mp hrun
    rw [ih hrest, ends_perform_iff hstep, noneCloses_cons hstep, and_assoc]

lemma ends_empty : Ends {} := by
  intro name
  by_cases hname : name = Intrinsic.exceptionType
  · rw [hname]
    exact ⟨_, _, .root⟩
  · exact ⟨_, _, .unloaded hname rfl⟩

theorem searches_end_iff_none_closes (hrun : requests.foldlM perform ({}, {}) = some (m, h)) :
    (m.SearchesEnd ↔ NoneCloses ({}, {}) requests) ∧
    (¬ m.SearchesEnd → ∃ name d, m.get? name = some d ∧ ∀ fuel, m.fieldsOf fuel d = none ∧
      ∀ method, m.Undefined method → m.lookup method fuel name = .endless) := by
  constructor
  · rw [searchesEnd_iff_ends, ends_run_iff hrun]
    exact and_iff_right ends_empty
  · intro hnot
    rw [searchesEnd_iff_ends] at hnot
    obtain ⟨name, hname⟩ := not_forall.mp hnot
    have hendless : m.Endless name := fun above stop hclimb => hname ⟨above, stop, hclimb⟩
    obtain ⟨d, -, -, hd, -⟩ := hendless.next
    exact ⟨name, d, hd, fun fuel =>
      ⟨hendless.fieldsOf_eq hd fuel, fun method hmethod => hendless.lookup_eq hmethod fuel⟩⟩

end Requests

end Machine

namespace Tide

open Machine

def ebb : TypeDef := { name := "Ebb", supertype := some "Flood" }

def flood : TypeDef := { name := "Flood", supertype := some "Ebb" }

def afloat : Heap := { objects := [⟨"Ebb", .empty⟩] }

theorem searches_end_before_flood : ∃ m, [Request.emit ebb, .instantiate "Ebb" []].foldlM perform
    ({}, {}) = some (m, afloat) ∧ m.SearchesEnd := by
  have hrun : [Request.emit ebb, .instantiate "Ebb" []].foldlM perform ({}, {}) =
      some ({ types := [ebb] }, afloat) := rfl
  have hebb : perform ({}, {}) (.emit ebb) = some ({ types := [ebb] }, {}) := rfl
  have hafloat : perform ({ types := [ebb] }, {}) (.instantiate "Ebb" []) =
      some ({ types := [ebb] }, afloat) := rfl
  refine ⟨_, hrun, (searches_end_iff_none_closes hrun).1.mpr ?_⟩
  rw [noneCloses_cons hebb, noneCloses_cons hafloat, and_iff_left noneCloses_nil]
  refine ⟨fun d hd => ?_, ?_⟩
  · rintro ⟨-, parent, hparent, hreach⟩
    cases hd
    cases hparent
    obtain heq | ⟨_, ⟨-, e, he, -⟩, -⟩ := hreach.cases_head
    · exact absurd heq (by decide)
    · cases he
  · intro d hd
    cases hd

theorem flood_closes_cycle : ∃ m : Machine,
    [Request.emit ebb, .instantiate "Ebb" [], .emit flood].foldlM perform ({}, {}) =
      some (m, afloat) ∧
    m.Undefined "rise" ∧ (∀ fuel, m.lookup "rise" fuel "Ebb" = .endless) ∧
    (∀ fuel, m.fieldsOf fuel ebb = none) ∧
    m.invoke (.object 0) "rise" [] afloat = .exceeded .depth ∧
    m.instantiate "Ebb" [] afloat = .exceeded .depth := by
  have hundefined : Machine.Undefined { types := [ebb, flood] } "rise" := by
    simp [Undefined, ebb, flood, TypeDef.instanceMethod?]
  have hcycle : Machine.Endless { types := [ebb, flood] } "Ebb" :=
    endless_of_cyclic (.tail (.single ⟨by decide, ebb, rfl, rfl⟩) ⟨by decide, flood, rfl, rfl⟩)
  exact ⟨{ types := [ebb, flood] }, rfl, hundefined, hcycle.lookup_eq hundefined,
    hcycle.fieldsOf_eq rfl, rfl, rfl⟩

end Tide

end SoapWrap
