import SoapWrap.Proofs.Pass.Following

/-! A strict pass is a lenient one that refuses the types of which the shape is not known. -/

namespace SoapWrap

lemma FieldShape.decide_of_known {c : Classification} (t : TypeExpr) (h : c ≠ .unknown) :
    decide true t c = decide false t c := by
  cases c with
  | unknown => exact absurd rfl h
  | yes => rfl
  | no => rfl

namespace Index

variable {index : Index} {t : TypeExpr}

def shapeless (index : Index) (t : TypeExpr) : Bool :=
  !(t.isScalar || t.isVoid || t.base == TypeExpr.listBase || t.base == TypeExpr.holderBase) &&
    (index.get? t.base).any (·.kind = .shapeless)

lemma classify_eq_unknown_iff (ht : index.knowsBase t = true) {builtin : String}
    (hb : builtin = TypeExpr.listBase ∨ builtin = TypeExpr.holderBase) {kind : Kind}
    (hk : kind ≠ .shapeless) :
    index.classify builtin kind t = .unknown ↔ index.shapeless t = true := by
  rw [classify, shapeless]
  cases hx : t.isScalar || t.isVoid || t.base == TypeExpr.listBase || t.base == TypeExpr.holderBase
  with
  | true =>
    rw [if_pos rfl]
    split <;> simp
  | false =>
    obtain ⟨info, hi⟩ := exists_entry ht hx
    simp only [Bool.or_eq_false_iff, beq_eq_false_iff_ne] at hx
    have hbase : t.base ≠ builtin := by
      rcases hb with rfl | rfl
      · exact hx.1.2
      · exact hx.2
    simp only [if_neg hbase, Bool.false_eq_true, if_false, hi, Option.any_some, Bool.not_false,
      Bool.true_and, decide_eq_true_eq]
    split
    · next h => simp [h, hk]
    · split <;> simp_all

lemma ofType_strict (ht : index.resolves t = true) :
    FieldShape.ofType index true t =
      if index.shapeless t then .error (.unknownClassification t)
      else FieldShape.ofType index false t := by
  have hk := knowsBase_of_resolves ht
  have hlist := classify_eq_unknown_iff hk (.inl rfl) (Kind.noConfusion : Kind.list ≠ .shapeless)
  have hholder :=
    classify_eq_unknown_iff hk (.inr rfl) (Kind.noConfusion : Kind.holder ≠ .shapeless)
  rw [FieldShape.ofType, FieldShape.ofType, classifyList, classifyHolder]
  cases hs : index.shapeless t with
  | true =>
    rw [hlist.mpr hs]
    rfl
  | false =>
    rw [hs] at hlist hholder
    rw [FieldShape.decide_of_known _ (mt hlist.mp Bool.false_ne_true),
      FieldShape.decide_of_known _ (mt hholder.mp Bool.false_ne_true)]
    rfl

end Index

namespace Depot

def index : Index where
  types := [
    { name := "org.acme.Depot"
      kind := .interface
      tags := [.ofName TagName.webService]
      methods := [{
        name := "load"
        params := [
          { declaredType := .listOf (.named "org.acme.Crate") },
          { declaredType := .named "org.acme.Crate" }] }] },
    { name := "org.acme.Crate", kind := .shapeless }]
  built := rfl

def synthesizer : Synthesizer := .ofIndex index {}

def report : Report where
  interfaces := 1
  operations := 1
  wrappers := 2
  faults := 0
  typesEmitted := 7

end Depot

namespace Synthesizer

def withStrict (s : Synthesizer) (strict : Bool) : Synthesizer :=
  { s with settings := { s.settings with strict } }

variable (s : Synthesizer)

lemma strict_follows_lenient :
    (s.withStrict true).Follows (s.withStrict false) s.index.shapeless where
  within := .refl s.index
  settings := ⟨true, rfl⟩
  shape t shape ht hs := by
    rw [← hs]
    exact Index.ofType_strict ht
  companion _ _ _ := rfl

lemma lenient_follows_strict :
    (s.withStrict false).Follows (s.withStrict true) fun _ => false where
  within := .refl s.index
  settings := ⟨false, rfl⟩
  shape t shape ht hs := by
    have h := hs.symm.trans (Index.ofType_strict ht)
    split at h
    · simp at h
    · exact h.symm
  companion _ _ _ := rfl

section Pass

variable {σ : Type} {emit : TypeDef → σ → Except EmitError σ} {types : σ → List TypeDef}

theorem runOn_strict_only_refuses (s : Synthesizer) (ha : Appends emit types) (session : Session)
    {sink : σ} (hs : types sink = []) (registrar : Registrar) :
    (∀ report p, (s.withStrict true).runOn session emit sink registrar = (.ok report, p) →
      (s.withStrict false).runOn session emit sink registrar = (.ok report, p)) ∧
    ∀ report p, (s.withStrict false).runOn session emit sink registrar = (.ok report, p) →
      ∃ outputs, (s.withStrict false).outputs? {} s.interfaces = some (outputs, p.session) ∧
        types p.sink = outputs.flatMap (·.typeDefs) ∧
        ((∃ report' p', (s.withStrict true).runOn session emit sink registrar =
            (.ok report', p')) ↔
          ∀ t ∈ outputs.flatMap (·.fieldTypes), s.index.shapeless t = false) ∧
        ∀ t, (outputs.flatMap (·.fieldTypes)).find? s.index.shapeless = some t →
          ((s.withStrict true).runOn session emit sink registrar).1 =
            .error (.unknownClassification t) := by
  constructor
  · intro report p hrun
    obtain ⟨outputs, -, hecho⟩ := runOn_follows s.lenient_follows_strict rfl hrun
    exact hecho.eq_of_no_doubt
  · intro report p hrun
    obtain ⟨outputs, hout, hecho⟩ := runOn_follows s.strict_follows_lenient rfl hrun
    refine ⟨outputs, hout, runOn_types ha hs hout hrun, ?_, fun t ht => ?_⟩
    · constructor
      · rintro ⟨report', p', hstrict⟩ t ht
        cases hfind : (outputs.flatMap (·.fieldTypes)).find? s.index.shapeless with
        | none => exact Bool.eq_false_iff.mpr (List.find?_eq_none.mp hfind t ht)
        | some first =>
          have hrefused := hecho.eq_refusal hfind
          rw [hstrict] at hrefused
          simp at hrefused
      · intro hknown
        refine ⟨report, p, hecho.eq_expected ?_⟩
        exact List.find?_eq_none.mpr fun t ht => Bool.eq_false_iff.mp (hknown t ht)
    · exact hecho.eq_refusal ht

theorem runOn_strict_only_refuses_depot :
    (Depot.synthesizer.runOn {} Manifest.emit {} {}).1 = .ok Depot.report ∧
      ((Depot.synthesizer.withStrict true).runOn {} Manifest.emit {} {}).1 =
        .error (.unknownClassification (.named "org.acme.Crate")) := by
  have hlenient : (Depot.synthesizer.runOn {} Manifest.emit {} {}).1 = .ok Depot.report := by
    decide +kernel
  refine ⟨hlenient, ?_⟩
  obtain ⟨outputs, hout, -, -, hrefused⟩ :=
    (runOn_strict_only_refuses Depot.synthesizer Manifest.appends {} rfl {}).2 Depot.report
      (Depot.synthesizer.runOn {} Manifest.emit {} {}).2 (Prod.ext hlenient rfl)
  have hfirst : (Depot.synthesizer.outputs? {} Depot.synthesizer.interfaces).map
      (fun r => (r.1.flatMap (·.fieldTypes)).find? Depot.index.shapeless) =
        some (some (.named "org.acme.Crate")) := by
    decide +kernel
  rw [show Depot.synthesizer.outputs? {} Depot.synthesizer.interfaces = _ from hout] at hfirst
  exact hrefused _ (Option.some.inj hfirst)

end Pass

end Synthesizer

end SoapWrap
