import Mathlib.Tactic.Lemma
import SoapWrap.Naming.Identifier

/-! The namespace of a package holds the segments of the package in reverse. Splitting undoes joining,
so that the segments, and with them the package, can be read off again. -/

namespace SoapWrap

namespace Text

variable {cs s : List Char} {ss : List (List Char)}

lemma segments_eq_splitOn (cs : List Char) : segments cs = cs.splitOn '.' := by
  induction cs with
  | nil => rfl
  | cons c rest ih =>
    rw [List.splitOn, List.splitOnP_cons_eq_if_modifyHead, ← List.splitOn, ← ih, segments]
    by_cases hc : c = '.'
    · simp only [hc, if_true, beq_self_eq_true]
    · simp only [hc, if_false, beq_eq_false_iff_ne.mpr hc, Bool.false_eq_true]
      cases hrest : segments rest with
      | nil => exact absurd hrest (segments_ne_nil rest)
      | cons s more => rfl

lemma joinWith_eq_intercalate (sep : List Char) (ss : List (List Char)) :
    joinWith sep ss = sep.intercalate ss := by
  induction ss with
  | nil => rw [joinWith, List.intercalate_nil]
  | cons s rest ih =>
    cases rest with
    | nil => rw [joinWith, List.intercalate_singleton]
    | cons t more => rw [joinWith, ih, List.intercalate_cons_cons]

lemma segments_joinWith (hne : ss ≠ []) (hdot : ∀ s ∈ ss, '.' ∉ s) :
    segments (joinWith ['.'] ss) = ss := by
  rw [segments_eq_splitOn, joinWith_eq_intercalate]
  exact List.splitOn_intercalate '.' hdot hne

lemma dot_not_mem_of_mem_segments (hs : s ∈ segments cs) : '.' ∉ s := by
  induction cs generalizing s with
  | nil =>
    rw [List.mem_singleton.mp hs]
    exact List.not_mem_nil
  | cons c rest ih =>
    rw [segments] at hs
    split at hs
    · rcases List.mem_cons.mp hs with rfl | hs
      · exact List.not_mem_nil
      · exact ih hs
    · next hc =>
      cases hrest : segments rest with
      | nil => exact absurd hrest (segments_ne_nil rest)
      | cons t more =>
        rw [hrest] at hs ih
        rcases List.mem_cons.mp hs with rfl | hs
        · exact List.not_mem_cons_of_ne_of_not_mem (Ne.symm hc) (ih List.mem_cons_self)
        · exact ih (List.mem_cons_of_mem t hs)

lemma segments_joinWith_reverse (cs : List Char) :
    segments (joinWith ['.'] (segments cs).reverse) = (segments cs).reverse := by
  apply segments_joinWith
  · exact mt List.reverse_eq_nil_iff.mp (segments_ne_nil cs)
  · intro s hs
    exact dot_not_mem_of_mem_segments (List.mem_reverse.mp hs)

end Text

namespace Naming

open Text (segments joinWith joinWith_segments segments_joinWith_reverse)

theorem deriveNamespace_inj (p q : String) : deriveNamespace p = deriveNamespace q ↔ p = q := by
  refine ⟨fun h => ?_, congrArg deriveNamespace⟩
  have hjoined : joinWith ['.'] (segments p.toList).reverse =
      joinWith ['.'] (segments q.toList).reverse := by
    have hchars := String.ofList_injective h
    exact List.append_cancel_left (List.append_cancel_right hchars)
  have hreversed : (segments p.toList).reverse = (segments q.toList).reverse := by
    rw [← segments_joinWith_reverse p.toList, hjoined, segments_joinWith_reverse]
  have hsegments : segments p.toList = segments q.toList := List.reverse_inj.mp hreversed
  rw [← String.toList_inj, ← joinWith_segments p.toList, hsegments, joinWith_segments]

example : deriveNamespace "org..acme." = "http://.acme..org/" := by decide +kernel

end Naming

end SoapWrap
