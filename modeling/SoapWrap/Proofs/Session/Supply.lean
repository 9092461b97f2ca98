import Mathlib.Data.List.Nodup
import Mathlib.Data.List.Perm.Subperm
import Mathlib.Tactic.Lemma
import SoapWrap.Synthesis.Session

namespace SoapWrap

/-- From `before` to `after` the names `given` were handed out, all new and all remembered. -/
structure HandsOut (before given after : List String) : Prop where
  kept : before ⊆ after
  recorded : given ⊆ after
  fresh : given.Disjoint before
  distinct : given.Nodup

namespace HandsOut

variable {a b c g k : List String}

lemma refl (a : List String) : HandsOut a [] a :=
  ⟨List.Subset.refl a, List.nil_subset a, List.disjoint_nil_left a, List.nodup_nil⟩

lemma cons {x : String} (hx : x ∉ a) : HandsOut a [x] (x :: a) where
  kept := List.subset_cons_self x a
  recorded := by simp
  fresh := by simpa using hx
  distinct := List.nodup_singleton x

lemma trans (h : HandsOut a g b) (i : HandsOut b k c) : HandsOut a (g ++ k) c where
  kept := List.Subset.trans h.kept i.kept
  recorded := List.append_subset.mpr ⟨List.Subset.trans h.recorded i.kept, i.recorded⟩
  fresh := by
    rw [List.disjoint_append_left]
    exact ⟨h.fresh, fun x hx ha => i.fresh hx (h.kept ha)⟩
  distinct := by
    refine List.nodup_append'.mpr ⟨h.distinct, i.distinct, fun x hg hk => ?_⟩
    exact i.fresh hk (h.recorded hg)

lemma mono (h : HandsOut a g b) (hk : k.Subperm g) : HandsOut a k b where
  kept := h.kept
  recorded := List.Subset.trans hk.subset h.recorded
  fresh := fun _ hx => h.fresh (hk.subset hx)
  distinct := by
    obtain ⟨l, hl, hs⟩ := hk
    exact hl.nodup_iff.mp (h.distinct.sublist hs)

lemma withheld (h : HandsOut a g b) : HandsOut a [] b :=
  h.mono List.nil_subperm

end HandsOut

namespace NameRegistry

variable (r : NameRegistry) (base suffix : String)

lemma candidate_injective : Function.Injective (candidate base suffix) := by
  intro m n h
  have hmn : m.repr = n.repr := (String.append_right_inj (base ++ suffix)).mp h
  have hd : Nat.toDigits 10 m = Nat.toDigits 10 n := by
    rw [← Nat.toList_repr, ← Nat.toList_repr, hmn]
  rw [← Nat.ofDigitChars_ten_toDigits (n := m), hd, Nat.ofDigitChars_ten_toDigits]

lemma exists_free : ∃ n ∈ List.range' 1 (r.taken.length + 1), candidate base suffix n ∉ r.taken := by
  by_contra hn
  push Not at hn
  have hs : (List.range' 1 (r.taken.length + 1)).map (candidate base suffix) ⊆ r.taken := by
    intro x hx
    obtain ⟨n, hm, rfl⟩ := List.mem_map.mp hx
    exact hn n hm
  have hd := (List.nodup_range' (s := 1) (n := r.taken.length + 1)).map
    (candidate_injective base suffix)
  have hl := (hd.subperm hs).length_le
  simp only [List.length_map, List.length_range'] at hl
  omega

lemma freeNumber_spec :
    r.freeNumber base suffix ∈ List.range' 1 (r.taken.length + 1) ∧
      candidate base suffix (r.freeNumber base suffix) ∉ r.taken ∧
      ∀ j, 1 ≤ j → j < r.freeNumber base suffix → candidate base suffix j ∈ r.taken := by
  obtain ⟨n, hm, hf⟩ := exists_free r base suffix
  rw [freeNumber]
  cases hs : (List.range' 1 (r.taken.length + 1)).find?
      fun n => !r.taken.contains (candidate base suffix n) with
  | none => exact absurd (List.find?_eq_none.mp hs n hm) (by simpa using hf)
  | some k =>
    obtain ⟨hk, hmem, hbefore⟩ := List.find?_range'_eq_some.mp hs
    exact ⟨hmem, by simpa using hk, fun j h1 hj => by simpa using hbefore j h1 hj⟩

lemma candidate_freeNumber : candidate base suffix (r.freeNumber base suffix) ∉ r.taken :=
  (freeNumber_spec r base suffix).2.1

lemma candidate_inj {base base' : String} {n : Nat} :
    candidate base suffix n = candidate base' suffix n ↔ base = base' := by
  rw [candidate, candidate, String.append_left_inj, String.append_left_inj]

lemma allocate_of_free (h : candidate base suffix 1 ∉ r.taken) :
    r.allocate base suffix = (candidate base suffix 1, ⟨candidate base suffix 1 :: r.taken⟩) := by
  have hn : r.freeNumber base suffix = 1 := by
    rw [freeNumber, List.range'_succ, List.find?_cons_of_pos (by simpa using h), Option.getD_some]
  rw [allocate, hn]

lemma allocate_handsOut :
    HandsOut r.taken [(r.allocate base suffix).1] (r.allocate base suffix).2.taken :=
  .cons (candidate_freeNumber r base suffix)

end NameRegistry

namespace FaultRegistry

lemma claim_handsOut (r : FaultRegistry) (name : String) :
    HandsOut r.claimed (if (r.claim name).1 then [name] else []) (r.claim name).2.claimed := by
  rw [claim, contains]
  by_cases hn : name ∈ r.claimed
  · simpa [hn] using HandsOut.refl r.claimed
  · simpa [hn] using HandsOut.cons hn

end FaultRegistry

structure Names where
  wrappers : List String := []
  adapters : List String := []
  faults : List String := []
  packages : List String := []

namespace Names

instance : Append Names where
  append m n := ⟨m.wrappers ++ n.wrappers, m.adapters ++ n.adapters, m.faults ++ n.faults,
    m.packages ++ n.packages⟩

lemma append_eq (m n : Names) : m ++ n = ⟨m.wrappers ++ n.wrappers, m.adapters ++ n.adapters,
    m.faults ++ n.faults, m.packages ++ n.packages⟩ := rfl

def join (ns : List Names) : Names where
  wrappers := ns.flatMap (·.wrappers)
  adapters := ns.flatMap (·.adapters)
  faults := ns.flatMap (·.faults)
  packages := ns.flatMap (·.packages)

def ofResult {α : Type} (names : α → Names) : Except SynthesisError α → Names
  | .ok a => names a
  | .error _ => {}

end Names

structure Session.Issues (before : Session) (n : Names) (after : Session) : Prop where
  wrappers : HandsOut (before.wrappers.map (·.1)) n.wrappers (after.wrappers.map (·.1))
  adapters : HandsOut before.names.taken n.adapters after.names.taken
  faults : HandsOut before.faults.claimed n.faults after.faults.claimed
  packages : HandsOut before.packages n.packages after.packages

namespace Session.Issues

variable {a b c : Session} {m n : Names}

lemma refl (a : Session) : a.Issues {} a :=
  ⟨.refl _, .refl _, .refl _, .refl _⟩

lemma trans (h : a.Issues m b) (i : b.Issues n c) : a.Issues (m ++ n) c :=
  ⟨h.wrappers.trans i.wrappers, h.adapters.trans i.adapters, h.faults.trans i.faults,
    h.packages.trans i.packages⟩

lemma withheld (h : a.Issues m b) : a.Issues {} b :=
  ⟨h.wrappers.withheld, h.adapters.withheld, h.faults.withheld, h.packages.withheld⟩

lemma trans_withheld (h : a.Issues m b) (i : b.Issues n c) : a.Issues {} c :=
  (h.trans i).withheld

lemma ofFaults {faults : FaultRegistry} {given : List String}
    (h : HandsOut a.faults.claimed given faults.claimed) :
    a.Issues { faults := given } { a with faults } :=
  ⟨.refl _, .refl _, h, .refl _⟩

lemma ofNames {names : NameRegistry} {given : List String}
    (h : HandsOut a.names.taken given names.taken) :
    a.Issues { adapters := given } { a with names } :=
  ⟨.refl _, h, .refl _, .refl _⟩

end Session.Issues

namespace Session

lemma claim?_eq_none {session : Session} {wrapper : String} :
    session.claim? wrapper = none ↔ wrapper ∉ session.wrappers.map (·.1) := by
  rw [claim?, List.lookup_eq_none_iff]
  constructor
  · intro h hm
    obtain ⟨c, hc, rfl⟩ := List.mem_map.mp hm
    simpa using h c hc
  · intro h c hc
    have hne : wrapper ≠ c.1 := by
      rintro rfl
      exact h (List.mem_map_of_mem hc)
    simpa using hne

lemma claimWrapper_ok {session session' : Session} {wrapper operation : String}
    {kind : WrapperKind} (h : session.claimWrapper wrapper operation kind = .ok session') :
    session.claim? wrapper = none ∧ session' = session.addClaim wrapper ⟨operation, kind⟩ := by
  rw [claimWrapper] at h
  split at h
  · simp at h
  · next hn => exact ⟨hn, (Except.ok.inj h).symm⟩

lemma claimWrapper_taken {session : Session} {wrapper operation : String} {kind : WrapperKind}
    {e : SynthesisError} (h : session.claimWrapper wrapper operation kind = .error e) :
    wrapper ∈ session.wrappers.map (·.1) := by
  rw [claimWrapper] at h
  split at h
  · next hc =>
    by_contra hn
    rw [claim?_eq_none.mpr hn] at hc
    cases hc
  · simp at h

lemma claimWrapper_issues {session session' : Session} {wrapper operation : String}
    {kind : WrapperKind} (h : session.claimWrapper wrapper operation kind = .ok session') :
    session.Issues { wrappers := [wrapper] } session' := by
  obtain ⟨hn, rfl⟩ := claimWrapper_ok h
  exact ⟨.cons (claim?_eq_none.mp hn), .refl _, .refl _, .refl _⟩

end Session

end SoapWrap
