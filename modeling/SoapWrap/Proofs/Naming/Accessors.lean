import SoapWrap.Naming.Identifier
import SoapWrap.Proofs.Naming.Words
import SoapWrap.Proofs.Sequence

namespace SoapWrap

namespace Text

variable {c d : Char}

/-- A number that is no code point stands for the zero character. -/
lemma toNat_ofNat (n : Nat) : (Char.ofNat n).toNat = n ∨ (Char.ofNat n).toNat = 0 := by
  by_cases hn : n.isValidChar
  · left
    rw [Char.ofNat, dif_pos hn]
    rfl
  · right
    rw [Char.ofNat, dif_neg hn]
    rfl

lemma low_of_mem_expanded {cs : List Char} (h : expanded upperExpansions c = some cs)
    (hd : d ∈ cs) : 65 ≤ d.toNat := by
  have hall : ∀ e ∈ upperExpansions, ∀ n ∈ e.2, 65 ≤ (Char.ofNat n).toNat := by decide +kernel
  rw [expanded, Option.map_eq_some_iff] at h
  obtain ⟨codes, hcodes, rfl⟩ := h
  obtain ⟨n, hn, rfl⟩ := List.mem_map.mp hd
  exact hall _ (mem_of_lookup hcodes) n hn

lemma low_of_shifted (h : shifted upperShifts c = some d) : d.toNat = 0 ∨ 65 ≤ d.toNat := by
  have hall : ∀ s ∈ upperShifts, 65 ≤ (s.span.first : Int) + s.distance := by decide +kernel
  rw [shifted, Option.map_eq_some_iff] at h
  obtain ⟨s, hs, rfl⟩ := h
  have hmem := hall s (List.mem_of_find?_eq_some hs)
  have hspan := List.find?_some hs
  simp only [Span.contains, Bool.and_eq_true, decide_eq_true_eq] at hspan
  rcases toNat_ofNat ((c.toNat : Int) + s.distance).toNat with h | h
  · right
    omega
  · exact .inl h

lemma asciiToUpper_eq (hd : d.toNat < 65) (hzero : d.toNat ≠ 0) (h : asciiToUpper c = d) :
    c = d := by
  rw [asciiToUpper] at h
  split at h
  · next hlower =>
    rw [isAsciiLower, Bool.and_eq_true, decide_eq_true_eq, decide_eq_true_eq] at hlower
    rw [← h] at hd hzero
    have hcode := toNat_ofNat (c.toNat - 32)
    omega
  · exact h

lemma eq_of_mem_upperChar (h : d ∈ upperChar c) (hd : d.toNat < 65) (hzero : d.toNat ≠ 0) :
    c = d := by
  rw [upperChar] at h
  split at h
  · exact asciiToUpper_eq hd hzero (List.mem_singleton.mp h).symm
  · cases hexpanded : expanded upperExpansions c with
    | some cs =>
      rw [hexpanded] at h
      have hlow := low_of_mem_expanded hexpanded h
      omega
    | none =>
      cases hshifted : shifted upperShifts c with
      | some e =>
        rw [hexpanded, hshifted] at h
        obtain rfl := List.mem_singleton.mp h
        have hlow := low_of_shifted hshifted
        omega
      | none =>
        rw [hexpanded, hshifted] at h
        exact (List.mem_singleton.mp h).symm

lemma mem_of_mem_capitalize {cs : List Char} (h : d ∈ capitalize cs) (hd : d.toNat < 65)
    (hzero : d.toNat ≠ 0) : d ∈ cs := by
  cases cs with
  | nil => exact h
  | cons c rest =>
    rcases List.mem_append.mp h with h | h
    · exact eq_of_mem_upperChar h hd hzero ▸ List.mem_cons_self
    · exact List.mem_cons_of_mem c h

end Text

namespace Naming

lemma not_mem_accessor {start wireName : String} {d : Char} (hstart : d ∉ start.toList)
    (hd : d.toNat < 65) (hzero : d.toNat ≠ 0) (halnum : Text.isAlnum d = false) :
    d ∉ (accessor start wireName).toList := by
  rw [accessor, String.toList_ofList, List.mem_append, List.mem_flatMap]
  rintro (h | ⟨word, hword, h⟩)
  · exact hstart h
  · have hmem := Text.mem_of_mem_capitalize h hd hzero
    have hd := (mem_of_mem_words hword hmem).2
    rw [halnum] at hd
    cases hd

lemma slash_not_mem_getterIdentifier (wireName : String) :
    '/' ∉ (getterIdentifier wireName).toList :=
  not_mem_accessor (by decide) (by decide) (by decide) (by decide)

end Naming

end SoapWrap
