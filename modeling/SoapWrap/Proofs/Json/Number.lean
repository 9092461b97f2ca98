import SoapWrap.Json.Printer
import SoapWrap.Json.Reader
import SoapWrap.Proofs.Sequence

namespace SoapWrap.Json

def isEnd (c : Char) : Bool := isSpace c || c == ',' || c == ']' || c == '}'

def Ends (s : List Char) : Prop := ∀ c ∈ s.head?, isEnd c = true

variable {s : List Char}

lemma isEnd_iff {c : Char} : isEnd c = true ↔ c ∈ [' ', '\n', '\t', '\r', ',', ']', '}'] := by
  simp only [isEnd, isSpace, Bool.or_eq_true, beq_iff_eq, List.mem_cons, List.not_mem_nil,
    or_false, or_assoc]

lemma Ends.not_digit (h : Ends s) : ∀ c ∈ s.head?, isDigit c = false := by
  have hends : ([' ', '\n', '\t', '\r', ',', ']', '}'].all fun c => isDigit c = false) = true := by
    decide
  exact fun c hc => of_decide_eq_true (List.all_eq_true.mp hends c (isEnd_iff.mp (h c hc)))

lemma ends_cons {c : Char} (h : isEnd c = true) : Ends (c :: s) :=
  fun _ hc => Option.some.inj hc ▸ h

lemma Ends.cons_ne {c : Char} (h : Ends s) (hc : isEnd c = false) (rest : List Char) :
    s ≠ c :: rest := by
  rintro rfl
  exact Bool.false_ne_true (hc.symm.trans (h c rfl))

lemma toDigits_cons (n : Nat) : ∃ d ds, Nat.toDigits 10 n = d :: ds ∧ isDigit d = true := by
  cases hds : Nat.toDigits 10 n with
  | nil => exact absurd hds Nat.toDigits_ne_nil
  | cons d ds =>
    have hd : d ∈ Nat.toDigits 10 n := hds ▸ List.mem_cons_self
    exact ⟨d, ds, rfl, Nat.isDigit_of_mem_toDigits (by decide) (by decide) hd⟩

lemma head_toDigits {n : Nat} (h : n ≠ 0) : (Nat.toDigits 10 n).head? ≠ some '0' := by
  induction n using Nat.strongRecOn with
  | ind n ih =>
    rw [Nat.toDigits_eq_if (by decide)]
    split
    · next hn =>
      have hall : ∀ d < 10, d ≠ 0 → [Nat.digitChar d].head? ≠ some '0' := by decide
      exact hall n hn h
    · next hn =>
      have hhead := ih (n / 10) (by omega) (by omega)
      obtain ⟨d, ds, hds, -⟩ := toDigits_cons (n / 10)
      rw [hds] at hhead ⊢
      exact hhead

section Ended

variable (n : Nat) (h : Ends s)
include h

lemma readDigits_toDigits :
    readDigits (Nat.toDigits 10 n ++ s) = some (Nat.toDigits 10 n, s) := by
  have hall : ∀ c ∈ Nat.toDigits 10 n, isDigit c = true :=
    fun c hc => Nat.isDigit_of_mem_toDigits (by decide) (by decide) hc
  obtain ⟨htake, hdrop⟩ := scan_of_head h.not_digit
  obtain ⟨d, ds, hds, -⟩ := toDigits_cons n
  rw [readDigits, List.takeWhile_append_of_pos hall, List.dropWhile_append_of_pos hall, htake,
    hdrop, List.append_nil, hds]

lemma readWhole_toDigits : readWhole (Nat.toDigits 10 n ++ s) = some (Nat.toDigits 10 n, s) := by
  rw [readWhole, readDigits_toDigits n h]
  simp only [Option.bind_eq_bind, Option.bind_some]
  split
  · next d ds hds =>
    by_cases hn : n = 0
    · subst hn
      cases hds
    · exact absurd (congrArg List.head? hds) (head_toDigits hn)
  · rfl

lemma readFraction_ends : readFraction s = some ([], s) := by
  rw [readFraction]
  exact h.cons_ne (by decide)

lemma readExponent_ends : readExponent s = some ([], s) := by
  rw [readExponent]
  · exact h.cons_ne (by decide)
  · exact h.cons_ne (by decide)

variable {n} in
lemma readUnsigned_toDigits (negative : Bool) (hn : negative = true → n ≠ 0) :
    readUnsigned negative (Nat.toDigits 10 n ++ s) =
      some (int (if negative then -(n : Int) else n), s) := by
  simpa [readUnsigned, readWhole_toDigits n h, readFraction_ends h, readExponent_ends h,
    Nat.ofDigitChars_ten_toDigits] using hn

lemma readNumber_intText (i : Int) : readNumber (intText i ++ s) = some (int i, s) := by
  rw [intText]
  split
  · next hi =>
    have hn : i.natAbs ≠ 0 := by omega
    rw [List.cons_append, readNumber, readUnsigned_toDigits h true (fun _ => hn), if_pos rfl]
    simp only [Option.some.injEq, Prod.mk.injEq, int.injEq, and_true]
    omega
  · next hi =>
    rw [readNumber, readUnsigned_toDigits h false (by simp)]
    · simp only [Bool.false_eq_true, if_false, Option.some.injEq, Prod.mk.injEq, int.injEq,
        and_true]
      omega
    · intro rest hr
      obtain ⟨d, ds, hds, hd⟩ := toDigits_cons i.natAbs
      rw [hds, List.cons_append, List.cons.injEq] at hr
      rw [hr.1] at hd
      cases hd

end Ended

lemma intText_cons (i : Int) : ∃ c cs, intText i = c :: cs ∧ (c = '-' ∨ isDigit c = true) := by
  rw [intText]
  split
  · exact ⟨_, _, rfl, .inl rfl⟩
  · obtain ⟨d, ds, hds, hd⟩ := toDigits_cons i.natAbs
    exact ⟨d, ds, hds, .inr hd⟩

def marks : List Char := ['"', '[', ']', '{', '}', 'n', 't', 'f', ' ', '\n', '\t', '\r']

lemma ne_of_mem_marks {c : Char} (hc : c = '-' ∨ isDigit c = true) : ∀ d ∈ marks, c ≠ d := by
  have hmarks : (marks.all fun d => decide (d ≠ '-' ∧ isDigit d = false)) = true := by decide
  have hall : ∀ d ∈ marks, d ≠ '-' ∧ isDigit d = false := fun d hd =>
    of_decide_eq_true (List.all_eq_true.mp hmarks d hd)
  rintro d hd rfl
  rcases hc with hc | hc
  · exact (hall c hd).1 hc
  · rw [(hall c hd).2] at hc
    cases hc

lemma readValue_number {c : Char} (hc : c = '-' ∨ isDigit c = true) (fuel : Nat) (s : List Char) :
    readValue (fuel + 1) (c :: s) = readNumber (c :: s) := by
  have hne := ne_of_mem_marks hc
  simp only [marks, List.forall_mem_cons] at hne
  rw [readValue]
  all_goals simp_all

end SoapWrap.Json
