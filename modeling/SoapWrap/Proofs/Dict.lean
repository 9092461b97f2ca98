import Mathlib.Tactic.Lemma
import SoapWrap.Dict

namespace SoapWrap.Dict

variable {α : Type} {k l : String} {v : α}

lemma lookup_insertEntry_self (k : String) (v : α) (es : List (String × α)) :
    (insertEntry k v es).lookup k = some v := by
  induction es with
  | nil => simp [insertEntry]
  | cons e rest ih =>
    obtain ⟨l, w⟩ := e
    simp only [insertEntry]
    split
    · simp
    · split
      · simp
      · next hne =>
        have hb : (k == l) = false := by simpa using hne
        rw [List.lookup_cons, hb]
        exact ih

lemma lookup_insertEntry_of_ne (h : l ≠ k) (es : List (String × α)) :
    (insertEntry k v es).lookup l = es.lookup l := by
  have hb : (l == k) = false := by simpa using h
  induction es with
  | nil => simp [insertEntry, List.lookup_cons, hb]
  | cons e rest ih =>
    obtain ⟨m, w⟩ := e
    simp only [insertEntry]
    split
    · rw [List.lookup_cons, hb]
    · split
      · next hk =>
        subst hk
        simp [List.lookup_cons, hb]
      · simp only [List.lookup_cons, ih]

@[simp] lemma get?_empty (k : String) : (empty : Dict α).get? k = none := rfl

@[simp] lemma get?_insert_self (d : Dict α) (k : String) (v : α) :
    (d.insert k v).get? k = some v :=
  lookup_insertEntry_self k v d.entries

lemma get?_insert_of_ne (d : Dict α) (h : l ≠ k) : (d.insert k v).get? l = d.get? l :=
  lookup_insertEntry_of_ne h d.entries

lemma get?_insert (d : Dict α) (k l : String) (v : α) :
    (d.insert k v).get? l = if l = k then some v else d.get? l := by
  by_cases h : l = k
  · rw [h, get?_insert_self, if_pos rfl]
  · rw [get?_insert_of_ne d h, if_neg h]

lemma contains_eq_true_iff {d : Dict α} : d.contains k = true ↔ ∃ v, d.get? k = some v := by
  simp [contains, Option.isSome_iff_exists]

lemma insertEntry_of_last {es : List (String × α)} (h : ∀ e ∈ es, e.1 < k) :
    insertEntry k v es = es ++ [(k, v)] := by
  induction es with
  | nil => rfl
  | cons e rest ih =>
    obtain ⟨l, w⟩ := e
    rw [List.forall_mem_cons] at h
    have hlt : ¬ k < l := fun hk => String.lt_irrefl k (String.lt_trans hk h.1)
    have hne : k ≠ l := fun he => String.lt_irrefl k (he ▸ h.1)
    rw [insertEntry, if_neg hlt, if_neg hne, ih h.2, List.cons_append]

lemma entries_insertAll (d : Dict α) (es : List (String × α))
    (h : (d.entries ++ es).Pairwise fun a b => a.1 < b.1) :
    (es.foldl (fun d e => d.insert e.1 e.2) d).entries = d.entries ++ es := by
  induction es generalizing d with
  | nil => rw [List.foldl_nil, List.append_nil]
  | cons e rest ih =>
    have hbefore : ∀ a ∈ d.entries, a.1 < e.1 := fun a ha =>
      (List.pairwise_append.mp h).2.2 a ha e List.mem_cons_self
    have hinsert : (d.insert e.1 e.2).entries = d.entries ++ [e] := insertEntry_of_last hbefore
    rw [List.foldl_cons, ih, hinsert, List.append_assoc, List.singleton_append]
    rwa [hinsert, List.append_assoc, List.singleton_append]

lemma ofList_entries (d : Dict α) : ofList d.entries = d :=
  ext (entries_insertAll empty d.entries d.sorted)

end SoapWrap.Dict
