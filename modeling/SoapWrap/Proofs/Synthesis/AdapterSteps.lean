import Mathlib.Tactic.Lemma
import SoapWrap.Proofs.Sequence
import SoapWrap.Synthesis.Adapter

namespace SoapWrap

def FieldShape.of (index : Index) (strict : Bool) (t : TypeExpr) : FieldShape :=
  match ofType index strict t with
  | .ok shape => shape
  | .error _ => .single

namespace Adapter

variable {index : Index} {hasCompanion : String → Bool} {settings : Settings}
variable {names names' : NameRegistry} {w : Wrapper} {a : Adapter}

lemma ofWrapper_ok (h : ofWrapper index hasCompanion settings names w = .ok (a, names')) :
    (∀ f ∈ w.fields, FieldShape.ofType index settings.strict f.declaredType =
      .ok (.of index settings.strict f.declaredType)) ∧
    names' = (names.allocate w.qualifiedName settings.adapterSuffix).2 ∧
    a = {
      name := (names.allocate w.qualifiedName settings.adapterSuffix).1
      wrapper := w.qualifiedName
      fingerprint := w.fingerprint
      objectFactory := if hasCompanion (settings.companionFor w.package) then
        some (settings.companionFor w.package) else none
      construct := w.fields.map fun f =>
        (FieldShape.of index settings.strict f.declaredType).constructStep f
      decompose := w.fields.map fun f =>
        (FieldShape.of index settings.strict f.declaredType).decomposeStep f } := by
  rw [ofWrapper] at h
  split at h
  · simp at h
  · next shapes hs =>
    have hm := mapAll_ok hs
    have hsh : shapes = w.fields.map fun f => .of index settings.strict f.declaredType := by
      have hg := congrArg (List.map fun r => match r with
        | Except.ok shape => shape
        | .error _ => FieldShape.single) hm
      simpa [FieldShape.of, Function.comp_def] using hg.symm
    subst hsh
    simp only [Except.ok.injEq, Prod.mk.injEq] at h
    refine ⟨fun f hf => ?_, h.2.symm, ?_⟩
    · have hi := List.map_eq_map_iff.mp (hm.trans (List.map_map ..))
      exact hi f hf
    · rw [← h.1]
      simp [← List.map_prod_left_eq_zip]

end Adapter

end SoapWrap
