import SoapWrap.Naming.Identifier
import SoapWrap.Proofs.Naming.Words

namespace SoapWrap

namespace Text

variable {c : Char} {cs : List Char}

lemma forall_ascii {p : Char → Prop} (h : ∀ n < 128, p (Char.ofNat n)) (hc : c.toNat < 128) :
    p c := by
  have hp := h c.toNat hc
  rwa [Char.ofNat_toNat] at hp

lemma isAscii_eq_true (hc : c.toNat < 128) : isAscii c = true := decide_eq_true hc

def Plain (c : Char) : Prop := c.toNat < 128 ∧ isAlnum c = true

instance : DecidablePred Plain := fun _ => inferInstanceAs (Decidable (_ ∧ _))

lemma Plain.lower (hc : Plain c) : Plain (asciiToLower c) ∧ isUpper (asciiToLower c) = false :=
  forall_ascii
    (p := fun c => Plain c → Plain (asciiToLower c) ∧ isUpper (asciiToLower c) = false)
    (by decide +kernel) hc.1 hc

lemma Plain.upper (hc : Plain c) : Plain (asciiToUpper c) :=
  forall_ascii (p := fun c => Plain c → Plain (asciiToUpper c)) (by decide +kernel) hc.1 hc

lemma Plain.isAlphanum (hc : Plain c) : c.isAlphanum = true :=
  forall_ascii (p := fun c => Plain c → c.isAlphanum = true) (by decide +kernel) hc.1 hc

lemma Plain.isAlpha (hc : Plain c) (h : isAsciiDigit c = false) : c.isAlpha = true :=
  forall_ascii (p := fun c => Plain c → isAsciiDigit c = false → c.isAlpha = true)
    (by decide +kernel) hc.1 hc h

lemma asciiToLower_of_not_isUpper (hc : c.toNat < 128) (h : isUpper c = false) :
    asciiToLower c = c := by
  rw [isUpper, if_pos (isAscii_eq_true hc)] at h
  rw [asciiToLower]
  rw [if_neg (Bool.eq_false_iff.mp h)]

lemma asciiToUpper_of_isUpper (hc : c.toNat < 128) (h : isUpper c = true) : asciiToUpper c = c :=
  forall_ascii (p := fun c => isUpper c = true → asciiToUpper c = c) (by decide +kernel) hc h

lemma lowerAfter_of_ascii (hcs : ∀ c ∈ cs, c.toNat < 128) (before : List Char) :
    lowerAfter before cs = cs.map asciiToLower := by
  induction cs generalizing before with
  | nil => rfl
  | cons c rest ih =>
    rw [List.forall_mem_cons] at hcs
    have hne : ¬ (c == 'Σ') = true := by
      rw [beq_iff_eq]
      rintro rfl
      exact absurd hcs.1 (by decide)
    rw [lowerAfter]
    rw [if_neg hne, lowerChar, if_pos (isAscii_eq_true hcs.1), ih hcs.2]
    rfl

lemma lower_of_ascii (hcs : ∀ c ∈ cs, c.toNat < 128) : lower cs = cs.map asciiToLower :=
  lowerAfter_of_ascii hcs []

lemma capitalize_of_ascii (hc : c.toNat < 128) :
    capitalize (c :: cs) = asciiToUpper c :: cs := by
  rw [capitalize, upperChar, if_pos (isAscii_eq_true hc), List.singleton_append]

end Text

namespace Naming

open Text (Plain)

variable {name word : List Char} {ws : List (List Char)}

def IsIdentifier (s : List Char) : Prop :=
  ∃ first rest, s = first :: rest ∧ (first.isAlpha = true ∨ first = '_') ∧
    ∀ c ∈ rest, c.isAlphanum = true ∨ c = '_'

lemma plain_of_mem_words (hname : ∀ c ∈ name, c.toNat < 128) :
    ∀ word ∈ words name, ∀ c ∈ word, Plain c := by
  intro word hword c hc
  obtain ⟨hmem, halnum⟩ := mem_of_mem_words hword hc
  exact ⟨hname c hmem, halnum⟩

lemma plain_capitalize (hword : ∀ c ∈ word, Plain c) : ∀ c ∈ Text.capitalize word, Plain c := by
  cases word with
  | nil => exact hword
  | cons c rest =>
    rw [List.forall_mem_cons] at hword
    rw [Text.capitalize_of_ascii hword.1.1]
    exact List.forall_mem_cons.mpr ⟨hword.1.upper, hword.2⟩

lemma plain_camelCase (hws : ∀ word ∈ ws, ∀ c ∈ word, Plain c) (hne : ∀ word ∈ ws, word ≠ []) :
    (∀ c ∈ camelCase ws, Plain c) ∧ ∀ c ∈ (camelCase ws).head?, Text.isUpper c = false := by
  cases ws with
  | nil => exact ⟨List.forall_mem_nil _, by simp [camelCase]⟩
  | cons word rest =>
    rw [List.forall_mem_cons] at hws hne
    have hascii : ∀ c ∈ word, c.toNat < 128 := fun c hc => (hws.1 c hc).1
    obtain ⟨c, cs, rfl⟩ := List.exists_cons_of_ne_nil hne.1
    rw [camelCase, Text.lower_of_ascii hascii]
    constructor
    · refine List.forall_mem_append.mpr ⟨?_, ?_⟩
      · exact List.forall_mem_map.mpr fun d hd => (hws.1 d hd).lower.1
      · intro d hd
        obtain ⟨w, hw, hd⟩ := List.mem_flatMap.mp hd
        exact plain_capitalize (hws.2 w hw) d hd
    · intro d hd
      obtain rfl := Option.some.inj hd
      exact (hws.1 c List.mem_cons_self).lower.2

lemma camelCase_of_capitals (hword : ∀ c ∈ word, c.toNat < 128 ∧ Text.isUpper c = false)
    (hws : ∀ w ∈ ws, ∃ c cs, w = c :: cs ∧ c.toNat < 128 ∧ Text.isUpper c = true) :
    camelCase (word :: ws) = (word :: ws).flatten := by
  have hlower : ∀ c ∈ word, Text.asciiToLower c = c := fun c hc =>
    Text.asciiToLower_of_not_isUpper (hword c hc).1 (hword c hc).2
  have hcapitalize : ∀ w ∈ ws, Text.capitalize w = w := by
    intro w hw
    obtain ⟨c, cs, rfl, hc, hupper⟩ := hws w hw
    rw [Text.capitalize_of_ascii hc, Text.asciiToUpper_of_isUpper hc hupper]
  rw [camelCase, Text.lower_of_ascii fun c hc => (hword c hc).1, List.map_congr_left hlower,
    List.flatMap_def, List.map_congr_left hcapitalize, List.map_id', List.map_id',
    List.flatten_cons]

lemma camelCase_words_of_plain (hname : ∀ c ∈ name, Plain c)
    (hhead : ∀ c ∈ name.head?, Text.isUpper c = false) : camelCase (words name) = name := by
  cases name with
  | nil => rfl
  | cons c rest =>
    have halnum : ∀ d ∈ c :: rest, Text.isAlnum d = true := fun d hd => (hname d hd).2
    have hc : ∀ d ∈ [c], Text.isUpper d = false := List.forall_mem_singleton.mpr (hhead c rfl)
    obtain ⟨more, ws, hwords, hcapitals, hplain⟩ :=
      wordsFrom_of_alnum (List.cons_ne_nil c []) (List.forall_mem_cons.mp halnum).2
    have hall : words (c :: rest) = ([c] ++ more) :: ws := by
      rw [← hwords, words, wordsFrom]
      rw [if_pos (halnum c List.mem_cons_self)]
      rfl
    have hascii : ∀ w ∈ words (c :: rest), ∀ d ∈ w, Plain d :=
      plain_of_mem_words fun d hd => (hname d hd).1
    rw [hall, List.forall_mem_cons] at hascii
    rw [hall, camelCase_of_capitals, ← hall, flatten_words, List.filter_eq_self.mpr halnum]
    · intro d hd
      exact ⟨(hascii.1 d hd).1, List.forall_mem_append.mpr ⟨hc, hplain hc⟩ d hd⟩
    · intro w hw
      obtain ⟨d, ds, rfl, hupper⟩ := hcapitals w hw
      exact ⟨d, ds, rfl, (hascii.2 _ hw d List.mem_cons_self).1, hupper⟩

lemma camelCase_words_camelCase (hname : ∀ c ∈ name, c.toNat < 128) :
    camelCase (words (camelCase (words name))) = camelCase (words name) := by
  obtain ⟨hplain, hhead⟩ :=
    plain_camelCase (plain_of_mem_words hname) (ne_nil_of_mem_wordsFrom [] name)
  exact camelCase_words_of_plain hplain hhead

lemma isIdentifier_underscore (h : ∀ c ∈ name, Plain c) : IsIdentifier ('_' :: name) :=
  ⟨'_', name, rfl, .inr rfl, fun c hc => .inl (h c hc).isAlphanum⟩

lemma isIdentifier_of_plain (h : ∀ c ∈ name, Plain c) (hname : needsUnderscore name = false) :
    IsIdentifier name := by
  cases name with
  | nil => cases hname
  | cons c rest =>
    rw [List.forall_mem_cons] at h
    rw [needsUnderscore, Bool.or_eq_false_iff] at hname
    refine ⟨c, rest, rfl, .inl ?_, fun d hd => .inl (h.2 d hd).isAlphanum⟩
    exact h.1.isAlpha hname.1

lemma isReserved_of_needsUnderscore (h : needsUnderscore name = false) :
    isReserved (.ofList name) = false := by
  cases name with
  | nil => cases h
  | cons c rest => exact (Bool.or_eq_false_iff.mp h).2

lemma isReserved_underscore (name : List Char) : isReserved (.ofList ('_' :: name)) = false := by
  have hnone : ∀ word ∈ reservedWords, word.toList.head? ≠ some '_' := by decide +kernel
  rw [isReserved, ← Bool.not_eq_true, List.contains_iff_mem]
  intro hmem
  exact hnone _ hmem (by rw [String.toList_ofList, List.head?_cons])

lemma words_underscore (name : List Char) : words ('_' :: name) = words name := by
  have hsign : ¬ Text.isAlnum '_' = true := by decide
  rw [words, wordsFrom]
  rw [if_neg hsign]
  rfl

theorem fieldIdentifier_valid_and_stable (wireName : String)
    (h : ∀ c ∈ wireName.toList, c.toNat < 128) :
    IsIdentifier (fieldIdentifier wireName).toList ∧
      isReserved (fieldIdentifier wireName) = false ∧
      fieldIdentifier (fieldIdentifier wireName) = fieldIdentifier wireName := by
  obtain ⟨hplain, -⟩ := plain_camelCase (plain_of_mem_words h) (ne_nil_of_mem_wordsFrom [] _)
  have hagain := camelCase_words_camelCase h
  simp only [fieldIdentifier, String.toList_ofList]
  cases hneeds : needsUnderscore (camelCase (words wireName.toList)) with
  | true =>
    simp only [if_true, words_underscore, hagain, hneeds]
    exact ⟨isIdentifier_underscore hplain, isReserved_underscore _, trivial⟩
  | false =>
    simp only [Bool.false_eq_true, if_false, hagain, hneeds]
    exact ⟨isIdentifier_of_plain hplain hneeds, isReserved_of_needsUnderscore hneeds, trivial⟩

theorem fieldIdentifier_valid_and_stable_acronyms :
    fieldIdentifier "2nd-XMLHttp_requestURLId" = "_2ndXMLHttpRequestURLId" ∧
      IsIdentifier "_2ndXMLHttpRequestURLId".toList ∧
      isReserved "_2ndXMLHttpRequestURLId" = false ∧
      fieldIdentifier "_2ndXMLHttpRequestURLId" = "_2ndXMLHttpRequestURLId" := by
  have hname : fieldIdentifier "2nd-XMLHttp_requestURLId" = "_2ndXMLHttpRequestURLId" := by
    decide +kernel
  have hascii : "2nd-XMLHttp_requestURLId".toList.all (·.toNat < 128) = true := by decide +kernel
  have h := fieldIdentifier_valid_and_stable "2nd-XMLHttp_requestURLId" fun c hc =>
    of_decide_eq_true (List.all_eq_true.mp hascii c hc)
  rw [hname] at h
  exact ⟨hname, h⟩

end Naming

end SoapWrap
