import SoapWrap.Proofs.Trait.Service

/-! The attributes that are taken away from the members of a trait, and what becomes of them: where
they belong they become tags, and elsewhere nothing. -/

namespace SoapWrap.Trait

structure KeyedAttribute where
  name : String
  tag : String
  keys : List String

def methodAttributes : List KeyedAttribute := [
  ⟨"web_method", TagName.webMethod, ["operation_name"]⟩,
  ⟨"web_result", TagName.webResult, ["name", "target_namespace"]⟩]

def paramAttributes : List KeyedAttribute :=
  [⟨"web_param", TagName.webParam, ["name", "target_namespace", "mode", "header"]⟩]

lemma methodAttributes_names : ∀ k ∈ methodAttributes, k.name ∈ memberAttributes := by decide

lemma paramAttributes_names : ∀ k ∈ paramAttributes, k.name ∈ memberAttributes := by decide

inductive Becomes (keyed : List KeyedAttribute) (a : Attribute) (t : ElementTag) : Prop
  | keyed {k : KeyedAttribute} : k ∈ keyed → a.path.is k.name = true →
      keyedTag k.tag k.keys a = .ok t → Becomes keyed a t
  | named : a.path.is "tag" = true → namedTag a = .ok t → Becomes keyed a t

def Attribute.belongs (keyed : List KeyedAttribute) (a : Attribute) : Bool :=
  keyed.any (fun k => a.path.is k.name) || a.path.is "tag"

def readTag : (keyed : List KeyedAttribute) → Attribute → Except Failure (Option ElementTag)
  | [], a => if a.path.is "tag" then (namedTag a).map some else .ok none
  | k :: rest, a =>
    if a.path.is k.name then (keyedTag k.tag k.keys a).map some else readTag rest a

lemma readTag_methodAttributes : readTag methodAttributes = methodTag := rfl

lemma readTag_paramAttributes : readTag paramAttributes = paramTag := rfl

section Reading

variable {keyed : List KeyedAttribute} {a : Attribute} {as : List Attribute}

lemma Becomes.belongs {t : ElementTag} (h : Becomes keyed a t) : a.belongs keyed = true := by
  cases h with
  | keyed hk hname _ => exact Bool.or_eq_true_iff.mpr (.inl (List.any_eq_true.mpr ⟨_, hk, hname⟩))
  | named htag _ => exact Bool.or_eq_true_iff.mpr (.inr htag)

lemma Becomes.cons {k : KeyedAttribute} {t : ElementTag} (h : Becomes keyed a t) :
    Becomes (k :: keyed) a t := by
  cases h with
  | keyed hk hname hread => exact .keyed (List.mem_cons_of_mem _ hk) hname hread
  | named htag hread => exact .named htag hread

lemma readTag_eq_some {t : ElementTag} (h : readTag keyed a = .ok (some t)) :
    Becomes keyed a t := by
  induction keyed with
  | nil =>
    rw [readTag] at h
    split at h
    · next htag =>
      obtain ⟨_, hread, ht⟩ := map_eq_ok_iff.mp h
      exact .named htag (Option.some.inj ht ▸ hread)
    · cases h
  | cons k rest ih =>
    rw [readTag] at h
    split at h
    · next hname =>
      obtain ⟨_, hread, ht⟩ := map_eq_ok_iff.mp h
      exact .keyed List.mem_cons_self hname (Option.some.inj ht ▸ hread)
    · exact (ih h).cons

lemma readTag_eq_none (h : readTag keyed a = .ok none) : a.belongs keyed = false := by
  induction keyed with
  | nil =>
    rw [readTag] at h
    split at h
    · obtain ⟨_, -, hsome⟩ := map_eq_ok_iff.mp h
      cases hsome
    · next htag => simpa [Attribute.belongs] using htag
  | cons k rest ih =>
    rw [readTag] at h
    split at h
    · obtain ⟨_, -, hsome⟩ := map_eq_ok_iff.mp h
      cases hsome
    · next hname =>
      rw [Attribute.belongs, List.any_cons, Bool.eq_false_iff.mpr hname, Bool.false_or]
      exact ih h

lemma readTag_of_not_belongs (h : a.belongs keyed = false) : readTag keyed a = .ok none := by
  induction keyed with
  | nil => exact if_neg (by simpa [Attribute.belongs] using h)
  | cons k rest ih =>
    rw [Attribute.belongs, List.any_cons, Bool.or_assoc, Bool.or_eq_false_iff] at h
    rw [readTag, if_neg (Bool.eq_false_iff.mp h.1)]
    exact ih h.2

lemma isMember_of_belongs (hkeyed : ∀ k ∈ keyed, k.name ∈ memberAttributes)
    (h : a.belongs keyed = true) : a.isMember = true := by
  rw [Attribute.belongs, Bool.or_eq_true, List.any_eq_true] at h
  rw [Attribute.isMember, List.any_eq_true]
  rcases h with ⟨k, hk, hname⟩ | htag
  · exact ⟨k.name, hkeyed k hk, hname⟩
  · exact ⟨"tag", by decide, htag⟩

lemma forall₂_becomes {tags : List ElementTag} (h : tagsOf (readTag keyed) as = .ok tags) :
    List.Forall₂ (Becomes keyed) (as.filter (·.belongs keyed)) tags := by
  obtain ⟨found, hfound, rfl⟩ := tagsOf_eq_ok_iff.mp h
  clear h
  induction as generalizing found with
  | nil =>
    obtain rfl := Except.ok.inj hfound
    exact .nil
  | cons a rest ih =>
    obtain ⟨o, found, ho, hrest, rfl⟩ := mapAll_cons_ok_iff.mp hfound
    cases o with
    | none =>
      rw [List.filter_cons_of_neg (by simp [readTag_eq_none ho])]
      exact ih found hrest
    | some t =>
      have ht := readTag_eq_some ho
      rw [List.filter_cons_of_pos ht.belongs]
      exact .cons ht (ih found hrest)

end Reading

structure Method.Tags (chosen : List KeyedAttribute → Attribute → Bool) (m : Method)
    (sm : ServiceMethod) : Prop where
  tags : List.Forall₂ (Becomes methodAttributes) (m.attributes.filter (chosen methodAttributes))
    sm.tags
  params : List.Forall₂ (fun a p => List.Forall₂ (Becomes paramAttributes)
    (a.attributes.filter (chosen paramAttributes)) p.tags) m.typed sm.params

structure Method.Placed (m : Method) : Prop where
  attributes : ∀ a ∈ m.attributes, a.isMember = true → a.belongs methodAttributes = true
  params : ∀ p ∈ m.typed, ∀ a ∈ p.attributes, a.isMember = true → a.belongs paramAttributes = true

instance (m : Method) : Decidable m.Placed :=
  decidable_of_iff ((∀ a ∈ m.attributes, a.isMember = true → a.belongs methodAttributes = true) ∧
      ∀ p ∈ m.typed, ∀ a ∈ p.attributes, a.isMember = true → a.belongs paramAttributes = true)
    ⟨fun ⟨hmethod, hparams⟩ => ⟨hmethod, hparams⟩, fun h => ⟨h.attributes, h.params⟩⟩

section Placement

variable {keyed : List KeyedAttribute} {as : List Attribute} {tags : List ElementTag}

lemma forall₂_becomes_member_iff (hkeyed : ∀ k ∈ keyed, k.name ∈ memberAttributes)
    (h : List.Forall₂ (Becomes keyed) (as.filter (·.belongs keyed)) tags) :
    List.Forall₂ (Becomes keyed) (as.filter (·.isMember)) tags ↔
      ∀ a ∈ as, a.isMember = true → a.belongs keyed = true := by
  constructor
  · intro hall a ha hmember
    have hbelongs := ((List.forall₂_and_left _ _).mp (hall.imp fun _ _ h => ⟨h.belongs, h⟩)).1
    exact hbelongs a (List.mem_filter.mpr ⟨ha, hmember⟩)
  · intro hplaced
    have hsame : as.filter (·.isMember) = as.filter (·.belongs keyed) := by
      refine List.filter_congr fun a ha => Bool.eq_iff_iff.mpr ?_
      exact ⟨hplaced a ha, isMember_of_belongs hkeyed⟩
    rwa [hsame]

end Placement

lemma TypedArgument.forall₂_becomes {a : TypedArgument} {p : ServiceParam}
    (h : a.service = .ok p) : List.Forall₂ (Becomes paramAttributes)
      (a.attributes.filter (·.belongs paramAttributes)) p.tags := by
  obtain ⟨htags, -⟩ := service_eq_ok_iff.mp h
  rw [← readTag_paramAttributes] at htags
  exact Trait.forall₂_becomes htags

namespace Method

variable {m : Method} {sm : ServiceMethod}

lemma tags_of_service (h : m.service = .ok sm) :
    m.Tags (fun keyed a => a.belongs keyed) sm := by
  obtain ⟨htags, hparams, -⟩ := service_eq_ok_iff.mp h
  rw [← readTag_methodAttributes] at htags
  refine ⟨Trait.forall₂_becomes htags, ?_⟩
  exact (mapAll_eq_ok_iff_forall₂.mp hparams).imp fun _ _ => TypedArgument.forall₂_becomes

lemma tags_member_iff_placed (h : m.Tags (fun keyed a => a.belongs keyed) sm) :
    m.Tags (fun _ a => a.isMember) sm ↔ m.Placed := by
  have hmethod := forall₂_becomes_member_iff methodAttributes_names h.tags
  have hparams := forall₂_iff_forall_mem h.params fun _ _ =>
    forall₂_becomes_member_iff paramAttributes_names
  exact ⟨fun hall => ⟨hmethod.mp hall.tags, hparams.mp hall.params⟩,
    fun hplaced => ⟨hmethod.mpr hplaced.attributes, hparams.mpr hplaced.params⟩⟩

end Method

theorem TraitItem.members_become_tags {t : TraitItem} {tag : ElementTag} {s : Service}
    (h : t.service tag = .ok s) :
    List.Forall₂ (Method.Tags fun keyed a => a.belongs keyed) t.methods s.methods ∧
      (List.Forall₂ (Method.Tags fun _ a => a.isMember) t.methods s.methods ↔
        ∀ m ∈ t.methods, m.Placed) := by
  obtain ⟨-, hmethods, -⟩ := service_eq_ok_iff.mp h
  have htags : List.Forall₂ (Method.Tags fun keyed a => a.belongs keyed) t.methods s.methods :=
    (mapAll_eq_ok_iff_forall₂.mp hmethods).imp fun _ _ => Method.tags_of_service
  exact ⟨htags, forall₂_iff_forall_mem htags fun _ _ => Method.tags_member_iff_placed⟩

namespace Kiosk

def tag : ElementTag := ⟨TagName.webService, []⟩

def placedText : String := "trait Kiosk \x7b #[web_method(operation_name = \"Sale\")] " ++
  "fn sell(&self, #[web_param(header)] #[tag(Kind)] kind: String); \x7d"

def strayText : String := "trait Kiosk \x7b #[web_param(name = \"x\")] " ++
  "fn sell(&self, #[web_method(operation_name = \"Sale\")] kind: String); \x7d"

def tagsIn (s : Service) : List (List ElementTag × List (List ElementTag)) :=
  s.methods.map fun m => (m.tags, m.params.map (·.tags))

def attributeCounts (t : TraitItem) : List (Nat × List Nat) :=
  t.methods.map fun m => (m.attributes.length, m.typed.map (·.attributes.length))

theorem keeps_placed : ∃ t s, TraitItem.parse placedText = some t ∧ t.service tag = .ok s ∧
    List.Forall₂ (Method.Tags fun _ a => a.isMember) t.methods s.methods ∧
    tagsIn s = [([⟨TagName.webMethod, [("operationName", "Sale")]⟩],
      [[⟨TagName.webParam, [("header", "true")]⟩, ⟨"Kind", []⟩]])] := by
  obtain ⟨t, s, ht, hs, htest⟩ := exists_of_readsWith placedText tag
    (fun t s => (∀ m ∈ t.methods, m.Placed) ∧
      tagsIn s = [([⟨TagName.webMethod, [("operationName", "Sale")]⟩],
        [[⟨TagName.webParam, [("header", "true")]⟩, ⟨"Kind", []⟩]])]) (by decide +kernel)
  obtain ⟨hplaced, htags⟩ := of_decide_eq_true htest
  exact ⟨t, s, ht, hs, (TraitItem.members_become_tags hs).2.mpr hplaced, htags⟩

theorem loses_stray : ∃ t s, TraitItem.parse strayText = some t ∧ t.service tag = .ok s ∧
    attributeCounts t = [(1, [1])] ∧ attributeCounts t.strip = [(0, [0])] ∧
    tagsIn s = [([], [[]])] ∧
    ¬ List.Forall₂ (Method.Tags fun _ a => a.isMember) t.methods s.methods := by
  obtain ⟨t, s, ht, hs, htest⟩ := exists_of_readsWith strayText tag
    (fun t s => attributeCounts t = [(1, [1])] ∧ attributeCounts t.strip = [(0, [0])] ∧
      tagsIn s = [([], [[]])] ∧
      t.methods.map (fun m => (m.attributes.filter (·.isMember)).length) ≠
        s.methods.map (·.tags.length)) (by decide +kernel)
  obtain ⟨hbefore, hafter, htags, hlengths⟩ := of_decide_eq_true htest
  refine ⟨t, s, ht, hs, hbefore, hafter, htags, fun hall => hlengths ?_⟩
  rw [← List.forall₂_eq_eq_eq, List.forall₂_map_left_iff, List.forall₂_map_right_iff]
  exact hall.imp fun _ _ h => h.tags.length_eq

end Kiosk

end SoapWrap.Trait
