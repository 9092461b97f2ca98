import SoapWrap.Proofs.Trait.MemberTags

namespace SoapWrap.Trait

def ServiceParam.untagged (p : ServiceParam) : ServiceParam := { p with tags := [] }

def ServiceMethod.untagged (m : ServiceMethod) : ServiceMethod :=
  { m with params := m.params.map (·.untagged), tags := [] }

def Service.untagged (s : Service) : Service :=
  { s with methods := s.methods.map (·.untagged) }

inductive LeftOf : List Attribute → List Attribute → Prop
  | nil : LeftOf [] []
  | taken {a : Attribute} {as kept : List Attribute} :
    (∃ name ∈ memberAttributes, a.path.is name = true) → LeftOf as kept → LeftOf (a :: as) kept
  | kept {a : Attribute} {as kept : List Attribute} :
    (∀ name ∈ memberAttributes, a.path.is name = false) → LeftOf as kept →
      LeftOf (a :: as) (a :: kept)

inductive Argument.Sheds : Argument → Argument → Prop
  | receiver (words : List String) : Sheds (.receiver words) (.receiver words)
  | typed {a : TypedArgument} {kept : List Attribute} : LeftOf a.attributes kept →
      Sheds (.typed a) (.typed { a with attributes := kept })

structure Method.Sheds (m n : Method) : Prop where
  attributes : LeftOf m.attributes n.attributes
  arguments : List.Forall₂ (fun a b => a.1.Sheds b.1 ∧ a.2 = b.2) m.arguments n.arguments
  rest : n = { m with attributes := n.attributes, arguments := n.arguments }

inductive Member.Sheds : Member → Member → Prop
  | method {m n : Method} : m.Sheds n → Sheds (.method m) (.method n)
  | other (words : List String) : Sheds (.other words) (.other words)

structure TraitItem.Sheds (t u : TraitItem) : Prop where
  members : List.Forall₂ Member.Sheds t.members u.members
  rest : u = { t with members := u.members }

namespace TraitItem

lemma leftOf_stripAttributes (as : List Attribute) : LeftOf as (stripAttributes as) := by
  induction as with
  | nil => exact .nil
  | cons a rest ih =>
    rw [stripAttributes, List.filter_cons]
    split
    · next ha => exact .kept (by simpa [Attribute.isMember] using ha) ih
    · next ha => exact .taken (by simpa [Attribute.isMember] using ha) ih

lemma sheds_stripArgument (a : Argument) : a.Sheds (stripArgument a) := by
  cases a with
  | receiver words => exact .receiver words
  | typed a => exact .typed (leftOf_stripAttributes a.attributes)

lemma sheds_stripMethod (m : Method) : m.Sheds (stripMethod m) where
  attributes := leftOf_stripAttributes m.attributes
  arguments := List.forall₂_map_right_iff.mpr
    (List.forall₂_same.mpr fun a _ => ⟨sheds_stripArgument a.1, rfl⟩)
  rest := rfl

lemma sheds_stripMember (member : Member) : member.Sheds (stripMember member) := by
  cases member with
  | method m => exact .method (sheds_stripMethod m)
  | other words => exact .other words

theorem sheds_strip (t : TraitItem) : t.Sheds t.strip where
  members := List.forall₂_map_right_iff.mpr
    (List.forall₂_same.mpr fun member _ => sheds_stripMember member)
  rest := rfl

lemma stripAttributes_idem (as : List Attribute) :
    stripAttributes (stripAttributes as) = stripAttributes as :=
  List.filter_eq_self.mpr fun _ ha => (List.mem_filter.mp ha).2

lemma tagsOf_strip {keyed : List KeyedAttribute} (hkeyed : ∀ k ∈ keyed, k.name ∈ memberAttributes)
    (as : List Attribute) : tagsOf (readTag keyed) (stripAttributes as) = .ok [] := by
  have hnone : mapAll (readTag keyed) (stripAttributes as) =
      .ok ((stripAttributes as).map fun _ => none) := by
    rw [mapAll_eq_ok_iff, List.map_map]
    refine List.map_congr_left fun a ha => readTag_of_not_belongs ?_
    have hother : ¬ a.isMember = true := by simpa using (List.mem_filter.mp ha).2
    exact Bool.eq_false_iff.mpr (mt (isMember_of_belongs hkeyed) hother)
  refine tagsOf_eq_ok_iff.mpr ⟨_, hnone, ?_⟩
  simp

def stripTyped (a : TypedArgument) : TypedArgument :=
  { a with attributes := stripAttributes a.attributes }

lemma typed_stripMethod (m : Method) : (stripMethod m).typed = m.typed.map stripTyped := by
  rw [Method.typed, Method.typed, stripMethod, List.filterMap_map, List.map_filterMap]
  refine List.filterMap_congr fun a _ => ?_
  obtain ⟨argument, more⟩ := a
  cases argument <;> rfl

lemma methods_strip (t : TraitItem) : t.strip.methods = t.methods.map stripMethod := by
  rw [methods, methods, strip, List.filterMap_map, List.map_filterMap]
  refine List.filterMap_congr fun member _ => ?_
  cases member <;> rfl

lemma stripArgument_idem (a : Argument) : stripArgument (stripArgument a) = stripArgument a := by
  cases a with
  | receiver => rfl
  | typed a => simp only [stripArgument, stripAttributes_idem]

lemma stripMember_idem (member : Member) :
    stripMember (stripMember member) = stripMember member := by
  cases member with
  | method m =>
    simp only [stripMember, stripMethod, stripAttributes_idem, List.map_map]
    congr 3
    funext a
    simp only [Function.comp_apply, stripArgument_idem]
  | other => rfl

lemma strip_idem (t : TraitItem) : t.strip.strip = t.strip := by
  simp only [strip, List.map_map]
  congr 2
  funext member
  exact stripMember_idem member

lemma service_stripTyped {a : TypedArgument} {p : ServiceParam} (h : a.service = .ok p) :
    (stripTyped a).service = .ok p.untagged := by
  obtain ⟨-, htype, hname⟩ := TypedArgument.service_eq_ok_iff.mp h
  have htags := tagsOf_strip paramAttributes_names a.attributes
  rw [readTag_paramAttributes] at htags
  exact TypedArgument.service_eq_ok_iff.mpr ⟨htags, htype, hname⟩

lemma mapAll_strip {α β : Type} {service : α → Except Failure β} {strip : α → α} {untagged : β → β}
    (hstep : ∀ a b, service a = .ok b → service (strip a) = .ok (untagged b)) {as : List α}
    {bs : List β} (h : mapAll service as = .ok bs) :
    mapAll service (as.map strip) = .ok (bs.map untagged) := by
  rw [mapAll_eq_ok_iff_forall₂] at h ⊢
  rw [List.forall₂_map_left_iff, List.forall₂_map_right_iff]
  exact h.imp hstep

lemma service_stripMethod {m : Method} {sm : ServiceMethod} (h : m.service = .ok sm) :
    (stripMethod m).service = .ok sm.untagged := by
  obtain ⟨-, hparams, hreturned, hname⟩ := Method.service_eq_ok_iff.mp h
  have htags := tagsOf_strip methodAttributes_names m.attributes
  rw [readTag_methodAttributes] at htags
  refine Method.service_eq_ok_iff.mpr ⟨htags, ?_, hreturned, hname⟩
  rw [typed_stripMethod]
  exact mapAll_strip @service_stripTyped hparams

theorem strip_untags (t : TraitItem) (tag : ElementTag) :
    t.strip.strip = t.strip ∧
      ∀ s, t.service tag = .ok s → t.strip.service tag = .ok s.untagged := by
  refine ⟨strip_idem t, fun s h => ?_⟩
  obtain ⟨hgeneric, hmethods, hname, htag⟩ := service_eq_ok_iff.mp h
  refine service_eq_ok_iff.mpr ⟨hgeneric, ?_, hname, htag⟩
  rw [methods_strip]
  exact mapAll_strip @service_stripMethod hmethods

end TraitItem

namespace Stall

def text : String :=
  "trait Stall \x7b #[tag(Sale)] fn sell(&self, #[web_param(header)] kind: &str) -> i64; \x7d"

def tag : ElementTag := ⟨TagName.webService, []⟩

theorem strips : ∃ t s, TraitItem.parse text = some t ∧ t.service tag = .ok s ∧
    s.methods.map (·.tags) = [[⟨"Sale", []⟩]] ∧
    s.methods.flatMap (·.params.map (·.tags)) = [[⟨TagName.webParam, [("header", "true")]⟩]] ∧
    t.strip.strip = t.strip ∧ t.strip.service tag = .ok s.untagged := by
  obtain ⟨t, s, ht, hs, htest⟩ := exists_of_readsWith text tag
    (fun _ s => s.methods.map (·.tags) = [[⟨"Sale", []⟩]] ∧
      s.methods.flatMap (·.params.map (·.tags)) = [[⟨TagName.webParam, [("header", "true")]⟩]])
    (by decide +kernel)
  obtain ⟨htags, hparams⟩ := of_decide_eq_true htest
  obtain ⟨hstrip, huntags⟩ := TraitItem.strip_untags t tag
  exact ⟨t, s, ht, hs, htags, hparams, hstrip, huntags s hs⟩

end Stall

end SoapWrap.Trait
