import Mathlib.Tactic.Lemma
import SoapWrap.Proofs.Sequence
import SoapWrap.Trait.Service

namespace SoapWrap.Trait

lemma ofRejection_eq_ok_iff {α : Type} {r : Except Rejection α} {a : α} :
    ofRejection r = .ok a ↔ r = .ok a := by
  cases r <;> simp [ofRejection, Except.mapError]

lemma tagsOf_eq_ok_iff {read : Attribute → Except Failure (Option ElementTag)}
    {as : List Attribute} {tags : List ElementTag} :
    tagsOf read as = .ok tags ↔ ∃ found, mapAll read as = .ok found ∧ found.filterMap id = tags :=
  map_eq_ok_iff

lemma TypedArgument.service_eq_ok_iff {a : TypedArgument} {p : ServiceParam} :
    a.service = .ok p ↔
      tagsOf paramTag a.attributes = .ok p.tags ∧ a.type.map = .ok p.type ∧
        p.name = paramName a.name := by
  obtain ⟨name, type, tags⟩ := p
  simp only [service, bind_eq_ok_iff, pure_eq_ok_iff, ofRejection_eq_ok_iff, ServiceParam.mk.injEq]
  constructor
  · rintro ⟨_, htags, _, htype, rfl, rfl, rfl⟩
    exact ⟨htags, htype, rfl⟩
  · rintro ⟨htags, htype, rfl⟩
    exact ⟨tags, htags, type, htype, rfl, rfl, rfl⟩

lemma Method.service_eq_ok_iff {m : Method} {sm : ServiceMethod} :
    m.service = .ok sm ↔
      tagsOf methodTag m.attributes = .ok sm.tags ∧
        mapAll TypedArgument.service m.typed = .ok sm.params ∧
        m.returned = .ok ⟨sm.returns, sm.throws⟩ ∧ sm.name = m.name := by
  obtain ⟨name, params, returns, throws, tags⟩ := sm
  simp only [service, bind_eq_ok_iff, pure_eq_ok_iff, ofRejection_eq_ok_iff, ServiceMethod.mk.injEq]
  constructor
  · rintro ⟨_, htags, _, hparams, _, hreturned, rfl, rfl, rfl, rfl, rfl⟩
    exact ⟨htags, hparams, hreturned, rfl⟩
  · rintro ⟨htags, hparams, hreturned, rfl⟩
    exact ⟨tags, htags, params, hparams, _, hreturned, rfl, rfl, rfl, rfl, rfl⟩

lemma TraitItem.service_eq_ok_iff {t : TraitItem} {tag : ElementTag} {s : Service} :
    t.service tag = .ok s ↔
      t.isGeneric = false ∧ mapAll Method.service t.methods = .ok s.methods ∧
        s.name = t.name ∧ s.tag = tag := by
  obtain ⟨name, tag', methods⟩ := s
  rw [service]
  cases t.isGeneric with
  | true => simp [reject]
  | false =>
    simp only [Bool.false_eq_true, if_false, map_eq_ok_iff, Service.mk.injEq, true_and]
    constructor
    · rintro ⟨_, hmethods, rfl, rfl, rfl⟩
      exact ⟨hmethods, rfl, rfl⟩
    · rintro ⟨hmethods, rfl, rfl⟩
      exact ⟨methods, hmethods, rfl, rfl, rfl⟩

def readsWith (text : String) (tag : ElementTag) (p : TraitItem → Service → Bool) : Bool :=
  (TraitItem.parse text).any fun t => (t.service tag).toOption.any (p t)

lemma exists_of_readsWith (text : String) (tag : ElementTag) (p : TraitItem → Service → Bool)
    (h : readsWith text tag p = true) :
    ∃ t s, TraitItem.parse text = some t ∧ t.service tag = .ok s ∧ p t s = true := by
  obtain ⟨t, ht, hservice⟩ := (Option.any_eq_true _ _).mp h
  obtain ⟨s, hs, hp⟩ := (Option.any_eq_true _ _).mp hservice
  refine ⟨t, s, ht, ?_, hp⟩
  cases hr : t.service tag with
  | error e => simp [hr, Except.toOption] at hs
  | ok s' => simpa [hr, Except.toOption] using hs

end SoapWrap.Trait
