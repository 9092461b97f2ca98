import Mathlib.Tactic.Lemma
import SoapWrap.Json.Quoted

namespace SoapWrap.Json

lemma hexValue_hexDigit : ∀ n < 16, Text.hexValue (hexDigit n) = some n := by
  decide

lemma hex4_control {n : Nat} (h : n < 32) :
    hex4 '0' '0' (hexDigit (n / 16)) (hexDigit (n % 16)) = some n := by
  have hzero : Text.hexValue '0' = some 0 := by decide
  have hhigh := hexValue_hexDigit (n / 16) (by omega)
  have hlow := hexValue_hexDigit (n % 16) (Nat.mod_lt n (by decide))
  simp only [hex4, hzero, hhigh, hlow, Option.pure_def, Option.bind_eq_bind, Option.bind_some,
    Option.some.injEq]
  omega

section Unescape

variable {c : Char} (s : List Char)

lemma unescape_simple {n : Nat} (hu : c ≠ 'u') (h : simpleEscape c = some n) :
    unescape ('\\' :: c :: s) = (unescape s).map fun p => (n :: p.1, p.2) := by
  rw [unescape]
  · rw [h]
    cases unescape s <;> rfl
  · intros
    simp_all

lemma unescape_hex {a b d : Char} {n : Nat} (h : hex4 a b c d = some n) :
    unescape ('\\' :: 'u' :: a :: b :: c :: d :: s) =
      (unescape s).map fun p => (n :: p.1, p.2) := by
  rw [unescape, h]
  cases unescape s <;> rfl

lemma unescape_plain (hq : c ≠ '"') (hb : c ≠ '\\') (hc : 32 ≤ c.toNat) :
    unescape (c :: s) = (unescape s).map fun p => (c.toNat :: p.1, p.2) := by
  have hr : ¬ (c.toNat < 32 ∨ c = '\\') := by simp [hb, hc]
  rw [unescape]
  · rw [if_neg hr]
    cases unescape s <;> rfl
  all_goals simp_all

variable (c) in
lemma unescape_escapeChar :
    unescape (escapeChar c ++ s) = (unescape s).map fun p => (c.toNat :: p.1, p.2) := by
  rw [escapeChar]
  split
  · next h => subst h; exact unescape_simple s (by decide) rfl
  split
  · next h => subst h; exact unescape_simple s (by decide) rfl
  split
  · next h => subst h; exact unescape_simple s (by decide) rfl
  split
  · next h => subst h; exact unescape_simple s (by decide) rfl
  split
  · next h => subst h; exact unescape_simple s (by decide) rfl
  split
  · next h => subst h; exact unescape_simple s (by decide) rfl
  split
  · next h => subst h; exact unescape_simple s (by decide) rfl
  split
  · next h => exact unescape_hex s (hex4_control h)
  · next hq hb _ _ _ _ _ hc => exact unescape_plain s hq hb (Nat.le_of_not_lt hc)

lemma unescape_escaped (cs : List Char) :
    unescape (cs.flatMap escapeChar ++ '"' :: s) = some (cs.map Char.toNat, s) := by
  induction cs with
  | nil => rw [List.flatMap_nil, List.nil_append, unescape, List.map_nil]
  | cons c rest ih =>
    rw [List.flatMap_cons, List.append_assoc, unescape_escapeChar, ih]
    rfl

end Unescape

lemma not_surrogate (c : Char) :
    isHighSurrogate c.toNat = false ∧ isLowSurrogate c.toNat = false := by
  have hc := c.valid
  simp only [UInt32.isValidChar, Nat.isValidChar] at hc
  have hn : c.toNat = c.val.toNat := rfl
  simp only [isHighSurrogate, isLowSurrogate, Bool.and_eq_false_iff, decide_eq_false_iff_not]
  omega

lemma decodePoints_toNat (cs : List Char) : decodePoints (cs.map Char.toNat) = some cs := by
  induction cs with
  | nil => rfl
  | cons c rest ih =>
    obtain ⟨hhigh, hlow⟩ := not_surrogate c
    cases rest with
    | nil => simp [decodePoints, hhigh, hlow]
    | cons d rest =>
      rw [List.map_cons] at ih
      simp [decodePoints, hhigh, hlow, ih]

end SoapWrap.Json
