import SoapWrap.Proofs.Naming.Accessors
import SoapWrap.Proofs.Naming.FieldIdentifier

namespace SoapWrap.Text

variable {c d : Char} {cs word : List Char}

/-- The code points below 128 that lower case comes to from above: those of `i` and `k`, and the one
that stands for numbers that are no code points. -/
def strayCodes : List Nat := [0, 105, 107]

def Firm (c : Char) : Prop := c.toNat < 128 ∧ c.toNat ∉ strayCodes

instance : DecidablePred Firm := fun _ => inferInstanceAs (Decidable (_ ∧ _))

lemma not_firm_of_expanded (h : expanded lowerExpansions c = some cs) : ∀ d ∈ cs, ¬ Firm d := by
  have hall : ∀ e ∈ lowerExpansions, ∀ n ∈ e.2, ¬ Firm (Char.ofNat n) := by decide +kernel
  rw [expanded, Option.map_eq_some_iff] at h
  obtain ⟨codes, hcodes, rfl⟩ := h
  exact List.forall_mem_map.mpr (hall _ (mem_of_lookup hcodes))

lemma not_firm_of_shifted (h : shifted lowerShifts c = some d) : ¬ Firm d := by
  have hall : ∀ s ∈ lowerShifts, 128 ≤ (s.span.first : Int) + s.distance ∨
      s.span.first = s.span.last ∧ (s.span.first : Int) + s.distance = 107 := by decide +kernel
  rw [shifted, Option.map_eq_some_iff] at h
  obtain ⟨s, hs, rfl⟩ := h
  have hmem := hall s (List.mem_of_find?_eq_some hs)
  have hspan := List.find?_some hs
  simp only [Span.contains, Bool.and_eq_true, decide_eq_true_eq] at hspan
  rintro ⟨hlow, hstray⟩
  simp only [strayCodes, List.mem_cons, List.not_mem_nil, or_false, not_or] at hstray
  rcases toNat_ofNat ((c.toNat : Int) + s.distance).toNat with hcode | hcode
  · omega
  · exact hstray.1 hcode

lemma not_firm_of_mem_lowerChar (hc : ¬ c.toNat < 128) (hd : d ∈ lowerChar c) : ¬ Firm d := by
  have hascii : ¬ isAscii c = true := by simpa [isAscii] using hc
  rw [lowerChar, if_neg hascii] at hd
  cases hexpanded : expanded lowerExpansions c with
  | some cs =>
    rw [hexpanded] at hd
    exact not_firm_of_expanded hexpanded d hd
  | none =>
    cases hshifted : shifted lowerShifts c with
    | some e =>
      rw [hexpanded, hshifted] at hd
      obtain rfl := List.mem_singleton.mp hd
      exact not_firm_of_shifted hshifted
    | none =>
      rw [hexpanded, hshifted] at hd
      obtain rfl := List.mem_singleton.mp hd
      exact fun h => hc h.1

lemma lowerChar_ne_nil (c : Char) : lowerChar c ≠ [] := by
  rw [lowerChar]
  split
  · exact List.cons_ne_nil _ _
  · cases hexpanded : expanded lowerExpansions c with
    | some cs =>
      have hall : ∀ e ∈ lowerExpansions, e.2 ≠ [] := by decide
      rw [expanded, Option.map_eq_some_iff] at hexpanded
      obtain ⟨codes, hcodes, rfl⟩ := hexpanded
      simpa using hall _ (mem_of_lookup hcodes)
    | none => cases shifted lowerShifts c <;> simp

lemma ascii_of_firm_lowerAfter {before : List Char} (h : ∀ d ∈ lowerAfter before cs, Firm d) :
    ∀ c ∈ cs, c.toNat < 128 := by
  induction cs generalizing before with
  | nil => exact List.forall_mem_nil _
  | cons c rest ih =>
    rw [lowerAfter, List.forall_mem_append] at h
    refine List.forall_mem_cons.mpr ⟨?_, ih h.2⟩
    by_contra hc
    split at h
    · obtain ⟨hlow, -⟩ := List.forall_mem_singleton.mp h.1
      split at hlow <;> exact absurd hlow (by decide)
    · obtain ⟨d, hd⟩ := List.exists_mem_of_ne_nil _ (lowerChar_ne_nil c)
      exact not_firm_of_mem_lowerChar hc hd (h.1 d hd)

lemma ascii_of_asciiToLower (h : (asciiToLower c).toNat < 128) : c.toNat < 128 := by
  rw [asciiToLower] at h
  split at h
  · next hupper =>
    rw [isAsciiUpper, Bool.and_eq_true, decide_eq_true_eq, decide_eq_true_eq] at hupper
    omega
  · exact h

lemma lower_eq_iff (hword : ∀ d ∈ word, Firm d) :
    lower cs = word ↔ cs.map asciiToLower = word := by
  constructor
  · intro h
    rw [← lower_of_ascii (ascii_of_firm_lowerAfter fun d hd => hword d (h ▸ hd)), h]
  · rintro rfl
    refine lower_of_ascii fun c hc => ascii_of_asciiToLower ?_
    exact (hword _ (List.mem_map_of_mem hc)).1

lemma lowerString_eq_iff {s w : String} (hw : ∀ d ∈ w.toList, Firm d)
    (hlower : asciiLowerString w = w) : lowerString s = w ↔ eqIgnoreAsciiCase s w = true := by
  rw [eqIgnoreAsciiCase, hlower, beq_iff_eq, lowerString, asciiLowerString, ← String.toList_inj,
    ← String.toList_inj, String.toList_ofList, String.toList_ofList, lower_eq_iff hw]

end SoapWrap.Text
