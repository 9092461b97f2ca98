import Mathlib.Data.List.Basic
import SoapWrap.Metadata.Index
import SoapWrap.Proofs.Dict
import SoapWrap.Proofs.Sequence

namespace SoapWrap

variable {i : Nat} {start table : Dict Nat} {names seen : List String} {name : String}

lemma get?_of_recordPlaces (h : recordPlaces i start names = .ok table) (name : String) :
    table.get? name = (start.get? name).or ((names.idxOf? name).map (i + ·)) := by
  induction names generalizing i start with
  | nil =>
    rw [recordPlaces, Except.ok.injEq] at h
    rw [h, List.idxOf?_nil, Option.map_none, Option.or_none]
  | cons first rest ih =>
    rw [recordPlaces] at h
    split at h
    · cases h
    · next hnew =>
      have hnone : start.get? first = none := by simpa [Dict.contains] using hnew
      rw [ih h, Dict.get?_insert, List.idxOf?_cons]
      by_cases hname : name = first
      · rw [hname, if_pos rfl, hnone, beq_self_eq_true, if_pos rfl]
        rfl
      · rw [if_neg hname, beq_eq_false_iff_ne.mpr (Ne.symm hname), if_neg Bool.false_ne_true,
          Option.map_map]
        congr 2
        funext k
        simp [Nat.add_right_comm, Nat.add_assoc]

lemma recordPlaces_eq_error_iff (hseen : ∀ name, start.contains name = true ↔ name ∈ seen) :
    recordPlaces i start names = .error name ↔ firstRepeated seen names = some name := by
  induction names generalizing i start seen with
  | nil => simp [recordPlaces, firstRepeated]
  | cons first rest ih =>
    rw [recordPlaces, firstRepeated]
    by_cases hfirst : first ∈ seen
    · rw [if_pos ((hseen first).mpr hfirst), if_pos hfirst, Except.error.injEq, Option.some.injEq]
    · rw [if_neg (mt (hseen first).mp hfirst), if_neg hfirst]
      refine ih fun other => ?_
      rw [Dict.contains, Dict.get?_insert, List.mem_cons, ← hseen, Dict.contains]
      split <;> simp [*]

lemma recordPlaces_empty_eq_error_iff :
    recordPlaces i .empty names = .error name ↔ firstRepeated [] names = some name :=
  recordPlaces_eq_error_iff (by simp [Dict.contains])

namespace Index

variable {index : Index} {types : List TypeInfo}

lemma places_get? (index : Index) (name : String) :
    index.places.get? name = (index.types.map (·.name)).idxOf? name := by
  rw [get?_of_recordPlaces index.built, Dict.get?_empty, Option.none_or]
  simp

lemma firstRepeated_names (index : Index) : firstRepeated [] (index.types.map (·.name)) = none := by
  refine Option.eq_none_iff_forall_ne_some.mpr fun name h => ?_
  rw [← recordPlaces_empty_eq_error_iff (i := 0), index.built] at h
  cases h

lemma eq_of_types {other : Index} (h : index.types = other.types) : index = other := by
  obtain ⟨types, places, hbuilt⟩ := index
  obtain ⟨_, places', hbuilt'⟩ := other
  cases h
  cases hbuilt.symm.trans hbuilt'
  rfl

lemma distinct (index : Index) : (index.types.map (·.name)).Nodup :=
  (nodup_of_firstRepeated index.firstRepeated_names).1

lemma get?_eq_find? (index : Index) (name : String) :
    index.get? name = index.types.find? (·.name = name) := by
  rw [get?, places_get?]
  induction index.types with
  | nil => rfl
  | cons t rest ih =>
    rw [List.map_cons, List.idxOf?_cons, List.find?_cons, ← ih]
    by_cases ht : t.name = name
    · simp [ht]
    · simp only [ht, beq_iff_eq, decide_false, if_false, Option.bind_map]
      rfl

lemma contains_eq (index : Index) (name : String) :
    index.contains name = (index.get? name).isSome := by
  rw [contains, Dict.contains, places_get?, get?_eq_find?, Bool.eq_iff_iff, List.isSome_idxOf?,
    List.find?_isSome]
  simp

section Building

lemma ofTypes_types (index : Index) : ofTypes index.types = .ok index := by
  rw [ofTypes]
  split
  · next herror =>
    rw [index.built] at herror
    cases herror
  · exact congrArg Except.ok (eq_of_types rfl)

lemma ofTypes_eq_error (h : firstRepeated [] (types.map (·.name)) = some name) :
    ofTypes types = .error (.duplicateType name) := by
  rw [← recordPlaces_empty_eq_error_iff (i := 0)] at h
  rw [ofTypes]
  split
  · next hrecord =>
    rw [h] at hrecord
    rw [Except.error.inj hrecord]
  · next hrecord =>
    rw [h] at hrecord
    cases hrecord

lemma exists_ofTypes (h : (types.map (·.name)).Nodup) :
    ∃ index, ofTypes types = .ok index ∧ index.types = types := by
  cases hrecord : recordPlaces 0 .empty (types.map (·.name)) with
  | ok places => exact ⟨⟨types, places, hrecord⟩, ofTypes_types ⟨types, places, hrecord⟩, rfl⟩
  | error name =>
    have hnone : firstRepeated [] (types.map (·.name)) = none :=
      firstRepeated_eq_none_iff.mpr ⟨h, fun _ _ => List.not_mem_nil⟩
    rw [recordPlaces_empty_eq_error_iff, hnone] at hrecord
    cases hrecord

end Building

section Lookup

variable {info : TypeInfo}

lemma get?_of_mem (h : info ∈ index.types) : index.get? info.name = some info := by
  rw [get?_eq_find?]
  refine find?_eq_some_of_unique h (by simp) fun other ho hn => ?_
  exact List.inj_on_of_nodup_map index.distinct ho h (by simpa using hn)

lemma get?_eq_some_iff : index.get? name = some info ↔ info ∈ index.types ∧ info.name = name := by
  constructor
  · intro h
    rw [get?_eq_find?] at h
    exact ⟨List.mem_of_find?_eq_some h, by simpa using List.find?_some h⟩
  · rintro ⟨hi, rfl⟩
    exact get?_of_mem hi

lemma get?_eq_none_iff : index.get? name = none ↔ ∀ info ∈ index.types, info.name ≠ name := by
  simp [get?_eq_find?]

lemma mem_of_get? (h : index.get? name = some info) : info ∈ index.types :=
  (get?_eq_some_iff.mp h).1

lemma contains_eq_true_iff : index.contains name = true ↔ ∃ info, index.get? name = some info := by
  rw [contains_eq, Option.isSome_iff_exists]

end Lookup

end Index

end SoapWrap
