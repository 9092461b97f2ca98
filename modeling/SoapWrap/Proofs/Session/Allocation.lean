import Mathlib.Order.Bounds.Defs
import SoapWrap.Proofs.Session.Supply

/-! A registry of names over any sequence of requests. The search for a number is first described
with no bound on it, as trying one candidate after the other; that it ends is shown by counting. -/

namespace SoapWrap.NameRegistry

variable {r : NameRegistry} {base suffix : String} {n m tried : Nat}

inductive Searches (r : NameRegistry) (base suffix : String) : (n tried m : Nat) → Prop
  | free {n : Nat} : r.contains (candidate base suffix n) = false → Searches r base suffix n 1 n
  | taken {n tried m : Nat} : r.contains (candidate base suffix n) = true →
      Searches r base suffix (n + 1) tried m → Searches r base suffix n (tried + 1) m

lemma contains_iff {name : String} : r.contains name = true ↔ name ∈ r.taken :=
  List.contains_iff_mem

lemma contains_eq_false_iff {name : String} : r.contains name = false ↔ name ∉ r.taken := by
  rw [← contains_iff, Bool.not_eq_true]

lemma Searches.unique {tried' m' : Nat} (h : r.Searches base suffix n tried m)
    (h' : r.Searches base suffix n tried' m') : tried = tried' ∧ m = m' := by
  induction h generalizing tried' m' with
  | free hfree =>
    cases h' with
    | free => exact ⟨rfl, rfl⟩
    | taken htaken => exact absurd (hfree.symm.trans htaken) Bool.false_ne_true
  | taken htaken _ ih =>
    cases h' with
    | free hfree => exact absurd (hfree.symm.trans htaken) Bool.false_ne_true
    | taken _ hrest =>
      obtain ⟨rfl, rfl⟩ := ih hrest
      exact ⟨rfl, rfl⟩

lemma searches_of_first (hn : n ≤ m) (hfree : candidate base suffix m ∉ r.taken)
    (htaken : ∀ j, n ≤ j → j < m → candidate base suffix j ∈ r.taken) :
    r.Searches base suffix n (m + 1 - n) m := by
  induction hk : m - n generalizing n with
  | zero =>
    obtain rfl : n = m := by omega
    rw [Nat.add_sub_cancel_left]
    exact .free (contains_eq_false_iff.mpr hfree)
  | succ k ih =>
    have hrest : r.Searches base suffix (n + 1) (m + 1 - (n + 1)) m :=
      ih (by omega) (fun j hj => htaken j (Nat.le_of_succ_le hj)) (by omega)
    have htried : m + 1 - n = m + 1 - (n + 1) + 1 := by omega
    rw [htried]
    exact .taken (contains_iff.mpr (htaken n n.le_refl (by omega))) hrest

section Search

variable (r base suffix)

lemma freeNumber_isLeast :
    IsLeast {n | 0 < n ∧ r.contains (candidate base suffix n) = false}
      (r.freeNumber base suffix) := by
  obtain ⟨hmem, hfree, hbefore⟩ := freeNumber_spec r base suffix
  constructor
  · exact ⟨(List.mem_range'_1.mp hmem).1, contains_eq_false_iff.mpr hfree⟩
  · rintro n ⟨hpos, hn⟩
    by_contra hlt
    exact contains_eq_false_iff.mp hn (hbefore n hpos (Nat.lt_of_not_le hlt))

lemma freeNumber_le : r.freeNumber base suffix ≤ r.size + 1 := by
  have hmem := List.mem_range'_1.mp (freeNumber_spec r base suffix).1
  rw [size]
  omega

-- The first candidate has the number one, so that as many are tried as the number says.
lemma searches_freeNumber :
    r.Searches base suffix 1 (r.freeNumber base suffix) (r.freeNumber base suffix) := by
  obtain ⟨hmem, hfree, hbefore⟩ := freeNumber_spec r base suffix
  have h := searches_of_first (List.mem_range'_1.mp hmem).1 hfree hbefore
  rwa [Nat.add_sub_cancel] at h

lemma searches_iff :
    r.Searches base suffix 1 tried m ↔
      tried = r.freeNumber base suffix ∧ m = r.freeNumber base suffix := by
  constructor
  · exact fun h => h.unique (searches_freeNumber r base suffix)
  · rintro ⟨rfl, rfl⟩
    exact searches_freeNumber r base suffix

end Search

inductive Request where
  | allocate (base suffix : String)
  | clear

structure Record where
  registry : NameRegistry := {}
  issued : List String := []

namespace Record

def step (record : Record) : Request → Record
  | .allocate base suffix =>
    let (name, registry) := record.registry.allocate base suffix
    ⟨registry, record.issued ++ [name]⟩
  | .clear => ⟨record.registry.clear, []⟩

def ofRequests (requests : List Request) : Record := requests.foldl step {}

structure Exact (record : Record) : Prop where
  taken : record.registry.taken = record.issued.reverse
  distinct : record.issued.Nodup

lemma Exact.step {record : Record} (h : record.Exact) (request : Request) :
    (record.step request).Exact := by
  cases request with
  | clear => exact ⟨rfl, List.nodup_nil⟩
  | allocate base suffix =>
    have hfresh := candidate_freeNumber record.registry base suffix
    constructor
    · change _ :: record.registry.taken = (record.issued ++ [_]).reverse
      rw [h.taken, List.reverse_append, List.reverse_singleton, List.singleton_append]
    · rw [h.taken, List.mem_reverse] at hfresh
      change (record.issued ++ [_]).Nodup
      rw [← List.concat_eq_append]
      exact h.distinct.concat hfresh

lemma exact_ofRequests (requests : List Request) : (ofRequests requests).Exact := by
  suffices h : ∀ record : Record, record.Exact → (requests.foldl Record.step record).Exact from
    h {} ⟨rfl, List.nodup_nil⟩
  induction requests with
  | nil => exact fun _ h => h
  | cons request rest ih => exact fun record h => ih (record.step request) (h.step request)

end Record

theorem allocate_issues_least_free (requests : List Request) :
    let record := Record.ofRequests requests
    let r := record.registry
    (∀ base suffix, ∃ n after,
      r.allocate base suffix = (base ++ suffix ++ toString n, after) ∧
      IsLeast {n | 0 < n ∧ r.contains (base ++ suffix ++ toString n) = false} n ∧
      (∀ tried m, r.Searches base suffix 1 tried m ↔ tried = n ∧ m = n) ∧ n ≤ r.size + 1 ∧
      (∀ name, after.contains name = true ↔
        name = base ++ suffix ++ toString n ∨ r.contains name = true) ∧
      after.size = r.size + 1) ∧
    record.issued.Nodup ∧ r.size = record.issued.length ∧
      ∀ name, r.contains name = true ↔ name ∈ record.issued := by
  intro record r
  have hexact := Record.exact_ofRequests requests
  have htaken : r.taken = record.issued.reverse := hexact.taken
  refine ⟨fun base suffix => ?_, hexact.distinct, ?_, fun name => ?_⟩
  · refine ⟨r.freeNumber base suffix, (r.allocate base suffix).2, rfl,
      freeNumber_isLeast r base suffix, fun tried m => searches_iff r base suffix,
      freeNumber_le r base suffix, fun name => ?_, rfl⟩
    rw [contains_iff, contains_iff]
    exact List.mem_cons
  · rw [size, htaken, List.length_reverse]
  · rw [contains_iff, htaken, List.mem_reverse]

example : (Record.ofRequests [.allocate "a" "1", .allocate "a1" "", .clear, .allocate "a" "1",
    .allocate "" "a1"]).issued = ["a11", "a12"] := by decide

end SoapWrap.NameRegistry
