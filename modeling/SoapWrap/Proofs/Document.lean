import SoapWrap.Metadata.Codec
import SoapWrap.Proofs.Sequence

namespace SoapWrap

section Members

variable {α : Type} {key name : String} {write : α → Json}

lemma keys_listMember (key : String) (write : α → Json) (items : List α) :
    List.Sublist ((listMember key write items).map (·.1)) [key] := by
  cases items with
  | nil => exact List.nil_sublist _
  | cons a rest => exact List.Sublist.refl _

lemma keys_optionMember (key : String) (write : α → Json) (value : Option α) :
    List.Sublist ((optionMember key write value).map (·.1)) [key] := by
  cases value with
  | none => exact List.nil_sublist _
  | some a => exact List.Sublist.refl _

@[simp] lemma lookup_listMember_of_ne (h : name ≠ key) (items : List α) :
    (listMember key write items).lookup name = none := by
  cases items with
  | nil => rfl
  | cons a rest => simp [listMember, h]

@[simp] lemma lookup_optionMember_of_ne (h : name ≠ key) (value : Option α) :
    (optionMember key write value).lookup name = none := by
  cases value with
  | none => rfl
  | some a => simp [optionMember, h]

end Members

namespace Document

section Written

variable {α : Type} {key : String} {read : Json → Option α} {write : α → Json}

section Fields

variable {β : Type} {members : List (String × Json)} {names : List String}
variable {k : (String → Option Json) → Option β} {b : β}

lemma fields?_keyed (h : (members.map (·.1)).Nodup) :
    (Layout.keyed members).fields? names = some fun n => members.lookup n := by
  refine if_pos (List.all_eq_true.mpr fun n _ => decide_eq_true ?_)
  calc (members.filter (·.1 == n)).length
      = (members.map (·.1)).count n := by
        rw [List.count, List.countP_map, List.countP_eq_length_filter]
        rfl
    _ ≤ 1 := List.nodup_iff_count_le_one.mp h n

-- The fields are kept abstract: names are compared here, and not again in every reader.
lemma bind_fields? (h : (members.map (·.1)).Nodup)
    (hk : ∀ f : String → Option Json, (∀ m ∈ members, f m.1 = some m.2) →
      (∀ n, f n = members.lookup n) → k f = some b) :
    ((Layout.keyed members).fields? names).bind k = some b := by
  rw [fields?_keyed h]
  exact hk _ (lookup_of_mem h) fun _ => rfl

lemma bind_record? (h : (members.map (·.1)).Nodup)
    (hk : ∀ f : String → Option Json, (∀ m ∈ members, f m.1 = some m.2) →
      (∀ n, f n = members.lookup n) → k f = some b) :
    (record? names (.obj members)).bind k = some b :=
  bind_fields? h hk

end Fields

@[simp] lemma text?_str (s : String) : text? (Json.str s) = some s := rfl

lemma list_map {items : List α} (h : ∀ a ∈ items, read (write a) = some a) :
    list read (.arr (items.map write)) = some items :=
  mapM_map_some h

lemma orDefault_listMember {items : List α} (h : ∀ a ∈ items, read (write a) = some a) :
    orDefault [] (list read) ((listMember key write items).lookup key) = some items := by
  cases items with
  | nil => rfl
  | cons a rest =>
    rw [listMember, List.isEmpty_cons, if_neg (by decide), List.lookup_cons_self]
    exact list_map h

lemma optional_optionMember {value : Option α}
    (h : ∀ a ∈ value, absent? (write a) = some false ∧ read (write a) = some a) :
    optional read ((optionMember key write value).lookup key) = some value := by
  cases value with
  | none => rfl
  | some a =>
    obtain ⟨hnull, hread⟩ := h a rfl
    rw [optionMember, List.lookup_cons_self, optional, hnull, hread]
    rfl

lemma optional_ofOption {value : Option α}
    (h : ∀ a ∈ value, absent? (write a) = some false ∧ read (write a) = some a) :
    optional read (some (.ofOption write value)) = some value := by
  cases value with
  | none => rfl
  | some a =>
    obtain ⟨hnull, hread⟩ := h a rfl
    rw [Json.ofOption, Document.optional, hnull, hread]
    rfl

end Written

section Read

variable {δ α : Type} {read : δ → Option α} {P : α → Prop}

def Yields (read : δ → Option α) (P : α → Prop) : Prop := ∀ d a, read d = some a → P a

lemma Yields.required (h : Yields read P) : Yields (required read) P := by
  intro d a ha
  cases d with
  | none => cases ha
  | some d => exact h d a ha

lemma Yields.orDefault {default : α} (h : Yields read P) (hdefault : P default) :
    Yields (orDefault default read) P := by
  intro d a ha
  cases d with
  | none => exact Option.some.inj ha ▸ hdefault
  | some d => exact h d a ha

variable [Document δ]

lemma Yields.optional (h : Yields read P) : Yields (optional read) (∀ a ∈ ·, P a) := by
  intro d value hvalue a ha
  subst ha
  cases d with
  | none => cases hvalue
  | some d =>
    rw [Document.optional] at hvalue
    split at hvalue
    · split at hvalue
      · cases hvalue
      · obtain ⟨b, hb, hsome⟩ := Option.map_eq_some_iff.mp hvalue
        exact Option.some.inj hsome ▸ h d b hb
    · cases hvalue

lemma Yields.list (h : Yields read P) : Yields (list read) (∀ a ∈ ·, P a) := by
  intro d as has
  obtain ⟨items, -, hitems⟩ := Option.bind_eq_some_iff.mp has
  clear has
  induction items generalizing as with
  | nil =>
    cases hitems
    exact List.forall_mem_nil _
  | cons item rest ih =>
    rw [List.mapM_cons] at hitems
    simp only [Option.bind_eq_bind, Option.bind_eq_some_iff, Option.pure_def,
      Option.some.injEq] at hitems
    obtain ⟨a, ha, as, has, rfl⟩ := hitems
    exact List.forall_mem_cons.mpr ⟨h item a ha, ih as has⟩

end Read

end Document

end SoapWrap
