import SoapWrap.Proofs.Synthesis.Extraction
import SoapWrap.Synthesis.Adapter

namespace SoapWrap

namespace Index

def Within (index other : Index) : Prop :=
  ∀ name info, index.get? name = some info → other.get? name = some info

variable {index other : Index} {operation name : String}

lemma knowsBase_of_resolves {t : TypeExpr} (h : index.resolves t = true) :
    index.knowsBase t = true := by
  obtain ⟨base, args⟩ := t
  rw [resolves, Bool.and_eq_true] at h
  exact h.1

lemma exists_entry {t : TypeExpr} (ht : index.knowsBase t = true)
    (hb : (t.isScalar || t.isVoid || t.base == TypeExpr.listBase ||
      t.base == TypeExpr.holderBase) = false) : ∃ info, index.get? t.base = some info := by
  simp only [Bool.or_eq_false_iff, beq_eq_false_iff_ne] at hb
  obtain ⟨⟨⟨hscalar, hvoid⟩, hlist⟩, hholder⟩ := hb
  rw [knowsBase, if_neg (not_or.mpr ⟨hlist, hholder⟩), hscalar, hvoid] at ht
  exact contains_eq_true_iff.mp ht

lemma Within.refl (index : Index) : index.Within index :=
  fun _ _ h => h

namespace Within

lemma contains (h : index.Within other) (hn : index.contains name = true) :
    other.contains name = true := by
  obtain ⟨info, hi⟩ := contains_eq_true_iff.mp hn
  exact contains_eq_true_iff.mpr ⟨info, h name info hi⟩

lemma knowsBase (h : index.Within other) {t : TypeExpr} (ht : index.knowsBase t = true) :
    other.knowsBase t = true := by
  rw [Index.knowsBase] at ht ⊢
  split
  · next hb => rwa [if_pos hb] at ht
  · next hb =>
    rw [if_neg hb, Bool.or_eq_true] at ht
    rw [Bool.or_eq_true]
    exact ht.imp_right h.contains

mutual
lemma resolves {index other : Index} (h : index.Within other) {t : TypeExpr}
    (ht : index.resolves t = true) : other.resolves t = true := by
  obtain ⟨base, args⟩ := t
  rw [Index.resolves, Bool.and_eq_true] at ht ⊢
  exact ⟨knowsBase h ht.1, resolvesAll h ht.2⟩
lemma resolvesAll {index other : Index} (h : index.Within other) {ts : List TypeExpr}
    (ht : index.resolvesAll ts = true) : other.resolvesAll ts = true := by
  cases ts with
  | nil => rfl
  | cons t rest =>
    rw [Index.resolvesAll, Bool.and_eq_true] at ht ⊢
    exact ⟨resolves h ht.1, resolvesAll h ht.2⟩
end

variable (h : index.Within other)
include h

lemma classify {t : TypeExpr} (ht : index.knowsBase t = true) (builtin : String) (kind : Kind) :
    other.classify builtin kind t = index.classify builtin kind t := by
  rw [Index.classify, Index.classify]
  split
  · rfl
  · split
    · rfl
    · next hb =>
      obtain ⟨info, hi⟩ := exists_entry ht (Bool.eq_false_iff.mpr hb)
      rw [hi, h _ _ hi]

lemma ofType {t : TypeExpr} (ht : index.resolves t = true) (strict : Bool) :
    FieldShape.ofType other strict t = FieldShape.ofType index strict t := by
  have hk := knowsBase_of_resolves ht
  rw [FieldShape.ofType, FieldShape.ofType, classifyList, classifyList, classifyHolder,
    classifyHolder, h.classify hk, h.classify hk]

lemma extractThrown {t : TypeExpr} {x : Thrown} (hx : index.extractThrown operation t = .ok x) :
    other.extractThrown operation t = .ok x := by
  rw [Index.extractThrown] at hx ⊢
  split at hx
  · simp at hx
  · next info hi =>
    rw [h _ _ hi]
    dsimp only at hx ⊢
    split at hx
    · next hr =>
      rw [if_pos (h.resolves hr)]
      exact hx
    · simp at hx

lemma extractOperation {m : MethodInfo} {op : Operation}
    (hm : index.extractOperation m = .ok op) : other.extractOperation m = .ok op := by
  rw [Index.extractOperation] at hm ⊢
  split at hm
  · simp at hm
  · split at hm
    · simp at hm
    · next hp xs hx =>
      rw [mapAll_mono (fun t _ => h.extractThrown) hx]
      exact hm

lemma extract {service : ServiceInterface} (hs : index.extract name = .ok service) :
    other.extract name = .ok service := by
  rw [Index.extract] at hs ⊢
  split at hs
  · simp at hs
  · next info hi =>
    rw [h _ _ hi]
    dsimp only
    split at hs
    · simp at hs
    · next ops hops =>
      rw [mapAll_mono (fun m _ => h.extractOperation) hops]
      exact hs

end Within

end Index

end SoapWrap
