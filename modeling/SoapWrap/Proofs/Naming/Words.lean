import Mathlib.Tactic.Lemma
import SoapWrap.Naming.Words

namespace SoapWrap.Naming

variable {current name : List Char}

lemma flatten_wordsFrom (current name : List Char) :
    (wordsFrom current name).flatten = current ++ name.filter Text.isAlnum := by
  induction name generalizing current with
  | nil =>
    rw [wordsFrom]
    split
    · next h => simp [List.isEmpty_iff.mp h]
    · simp
  | cons c rest ih =>
    rw [wordsFrom]
    split
    · next hc =>
      rw [List.filter_cons_of_pos hc]
      split
      · next h => simp [ih, List.getLast?_eq_none_iff.mp h]
      · split
        · simp [ih]
        · simp [ih]
    · next hc =>
      rw [List.filter_cons_of_neg hc]
      split
      · next h => simp [ih, List.isEmpty_iff.mp h]
      · simp [ih]

lemma flatten_words (name : List Char) : (words name).flatten = name.filter Text.isAlnum :=
  flatten_wordsFrom [] name

lemma ne_nil_of_mem_wordsFrom (current name : List Char) :
    ∀ word ∈ wordsFrom current name, word ≠ [] := by
  induction name generalizing current with
  | nil =>
    rw [wordsFrom]
    split
    · exact List.forall_mem_nil _
    · next h => exact List.forall_mem_singleton.mpr fun hnil => h (List.isEmpty_iff.mpr hnil)
  | cons c rest ih =>
    rw [wordsFrom]
    split
    · split
      · exact ih [c]
      · next prev hprev =>
        have hne : current ≠ [] := by
          rintro rfl
          cases hprev
        split
        · exact List.forall_mem_cons.mpr ⟨hne, ih [c]⟩
        · exact ih (current ++ [c])
    · split
      · exact ih []
      · next h =>
        exact List.forall_mem_cons.mpr ⟨fun hnil => h (List.isEmpty_iff.mpr hnil), ih []⟩

lemma mem_of_mem_words {word : List Char} (hword : word ∈ words name) {c : Char} (hc : c ∈ word) :
    c ∈ name ∧ Text.isAlnum c = true := by
  have hmem : c ∈ (words name).flatten := List.mem_flatten_of_mem hword hc
  rw [flatten_words] at hmem
  exact List.mem_filter.mp hmem

lemma wordsFrom_of_alnum (hcurrent : current ≠ []) (hname : ∀ c ∈ name, Text.isAlnum c = true) :
    ∃ more rest, wordsFrom current name = (current ++ more) :: rest ∧
      (∀ word ∈ rest, ∃ c cs, word = c :: cs ∧ Text.isUpper c = true) ∧
      ((∀ c ∈ current, Text.isUpper c = false) → ∀ c ∈ more, Text.isUpper c = false) := by
  induction name generalizing current with
  | nil =>
    have hne : ¬ current.isEmpty = true := mt List.isEmpty_iff.mp hcurrent
    refine ⟨[], [], ?_, List.forall_mem_nil _, fun _ => List.forall_mem_nil _⟩
    rw [wordsFrom]
    rw [if_neg hne, List.append_nil]
  | cons c tail ih =>
    rw [List.forall_mem_cons] at hname
    rw [wordsFrom]
    rw [if_pos hname.1, List.getLast?_eq_some_getLast hcurrent]
    dsimp only
    split
    · next hstarts =>
      obtain ⟨more, rest, hwords, hcapitals, -⟩ := ih (List.cons_ne_nil c []) hname.2
      have hupper : Text.isUpper c = true := (Bool.and_eq_true_iff.mp hstarts).1
      refine ⟨[], _, by rw [hwords, List.append_nil], ?_, fun _ => List.forall_mem_nil _⟩
      exact List.forall_mem_cons.mpr ⟨⟨c, more, rfl, hupper⟩, hcapitals⟩
    · next hgoes =>
      have hne : current ++ [c] ≠ [] := List.concat_ne_nil c current
      obtain ⟨more, rest, hwords, hcapitals, hlower⟩ := ih hne hname.2
      refine ⟨c :: more, rest, by simp [hwords], hcapitals, fun hplain => ?_⟩
      have hlast := hplain _ (List.getLast_mem hcurrent)
      have hc : Text.isUpper c = false := by simpa [startsWord, hlast] using hgoes
      have hboth := List.forall_mem_append.mpr ⟨hplain, List.forall_mem_singleton.mpr hc⟩
      exact List.forall_mem_cons.mpr ⟨hc, hlower hboth⟩

end SoapWrap.Naming
