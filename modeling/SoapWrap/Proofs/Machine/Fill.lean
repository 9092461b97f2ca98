import SoapWrap.Proofs.Machine.Builtins
import SoapWrap.Proofs.Synthesis.WrapperFields
import SoapWrap.Synthesis.Adapter

namespace SoapWrap

def FieldShape.refusal? : FieldShape → (held new : Value) → Option RunError
  | list, .null, _ => none
  | list, .list _, .null => none
  | list, .list _, .list _ => none
  | list, .list _, new => some (.typeMismatch .list new.kind)
  | list, held, _ => some (.typeMismatch .list held.kind)
  | _, _, _ => none

def Value.listRef? : Value → Option Nat
  | list q => some q
  | _ => none

lemma Value.listRef?_eq_some_iff {v : Value} {q : Nat} : v.listRef? = some q ↔ v = .list q := by
  cases v <;> simp [listRef?]

namespace Heap

def store (h : Heap) (r : Nat) (name : String) : FieldShape → (held new : Value) → Heap
  | .list, .list q, new => h.setItems q (h.items q ++ h.contents new)
  | _, _, new => h.setField r name new

lemma store_of_not_kept {h : Heap} {r : Nat} {name : String} {shape : FieldShape}
    {held new : Value} (hk : ∀ q, ¬ (shape = .list ∧ held = .list q)) :
    h.store r name shape held new = h.setField r name new := by
  cases shape with
  | list =>
    cases held with
    | list q => exact absurd ⟨rfl, rfl⟩ (hk q)
    | _ => rfl
  | _ => rfl

variable {start h : Heap} {r source k : Nat} {w : Wrapper} {shape : WrapperField → FieldShape}
variable {f : WrapperField} {values : List Value} {held v : Value}

def Keeps (h : Heap) (r : Nat) (shape : WrapperField → FieldShape) (f : WrapperField) (q : Nat) :
    Prop :=
  shape f = .list ∧ h.field? (.object r) f.name = some (.list q)

/-- What an instance and the lists hold when the fields before a position are filled. -/
structure Filled (start : Heap) (r : Nat) (w : Wrapper) (shape : WrapperField → FieldShape)
    (values : List Value) (k : Nat) (h : Heap) : Prop where
  assigned : ∀ i < k, ∀ f v, w.fields[i]? = some f → values[i]? = some v →
    (∀ q, ¬ start.Keeps r shape f q) → h.field? (.object r) f.name = some v
  merged : ∀ i < k, ∀ f v q, w.fields[i]? = some f → values[i]? = some v →
    start.Keeps r shape f q → h.field? (.object r) f.name = some (.list q) ∧
      h.items q = start.items q ++ start.contents v
  later : ∀ i f, k ≤ i → w.fields[i]? = some f →
    h.field? (.object r) f.name = start.field? (.object r) f.name ∧
      ∀ q, start.Keeps r shape f q → h.items q = start.items q
  lists : ∀ q < start.lists.length,
    (∀ i < k, ∀ f, w.fields[i]? = some f → ¬ start.Keeps r shape f q) →
      h.items q = start.items q
  fields : ∀ name, name ∉ w.fields.map (·.name) →
    h.field? (.object r) name = start.field? (.object r) name
  type : (h.object r).type = (start.object r).type
  objects : ∀ p, p ≠ r → h.object p = start.object p
  grown : start.lists.length ≤ h.lists.length

structure Separate (h : Heap) (r : Nat) (w : Wrapper) (shape : WrapperField → FieldShape)
    (values : List Value) (source : Nat) : Prop where
  distinct : w.fields.Pairwise fun f g => ∀ q, h.Keeps r shape f q → ¬ h.Keeps r shape g q
  apart : ∀ f ∈ w.fields, ∀ q, h.Keeps r shape f q → q < h.lists.length ∧ q ≠ source ∧
    ∀ p, .list p ∈ values → p < h.lists.length ∧ p ≠ q

lemma Filled.refl (start : Heap) (r : Nat) (w : Wrapper) (shape : WrapperField → FieldShape)
    (values : List Value) : Filled start r w shape values 0 start where
  assigned := fun i hi => absurd hi (Nat.not_lt_zero i)
  merged := fun i hi => absurd hi (Nat.not_lt_zero i)
  later := fun _ _ _ _ => ⟨rfl, fun _ _ => rfl⟩
  lists := fun _ _ _ => rfl
  fields := fun _ _ => rfl
  type := rfl
  objects := fun _ _ => rfl
  grown := Nat.le_refl _

lemma Filled.store_assigned (hd : w.Distinct) (hF : Filled start r w shape values k h)
    (hf : w.fields[k]? = some f) (hv : values[k]? = some v)
    (hn : ∀ q, ¬ start.Keeps r shape f q) (hr : r < h.objects.length) :
    Filled start r w shape values (k + 1) (h.setField r f.name v) where
  assigned := by
    intro i hi g u hg hu hq
    by_cases hik : i = k
    · subst hik
      obtain rfl := Option.some.inj (hf.symm.trans hg)
      obtain rfl := Option.some.inj (hv.symm.trans hu)
      exact field?_setField_self h hr
    · rw [field?_setField_of_ne h (hd.name_ne hg hf hik)]
      exact hF.assigned i (by omega) g u hg hu hq
  merged := by
    intro i hi g u q hg hu hq
    have hik : i ≠ k := by
      rintro rfl
      obtain rfl := Option.some.inj (hf.symm.trans hg)
      exact hn q hq
    rw [field?_setField_of_ne h (hd.name_ne hg hf hik), items_setField]
    exact hF.merged i (by omega) g u q hg hu hq
  later := by
    intro i g hi hg
    rw [field?_setField_of_ne h (hd.name_ne hg hf (by omega))]
    exact hF.later i g (by omega) hg
  lists := by
    intro q hq hne
    exact hF.lists q hq fun i hi => hne i (by omega)
  fields := by
    intro name hm
    have hne : name ≠ f.name := by
      rintro rfl
      exact hm (List.mem_map_of_mem (List.mem_of_getElem? hf))
    rw [field?_setField_of_ne h hne, hF.fields name hm]
  type := by rw [type_setField, hF.type]
  objects := by
    intro p hp
    rw [object_setField_of_ne h hp, hF.objects p hp]
  grown := hF.grown

namespace Separate

variable (hs : h.Separate r w shape values source)
include hs

lemma kept_ne {i j p q : Nat} {g : WrapperField} (hf : w.fields[i]? = some f)
    (hg : w.fields[j]? = some g) (hij : i ≠ j) (hp : h.Keeps r shape f p)
    (hq : h.Keeps r shape g q) : p ≠ q := by
  rintro rfl
  obtain ⟨hi, rfl⟩ := List.getElem?_eq_some_iff.mp hf
  obtain ⟨hj, rfl⟩ := List.getElem?_eq_some_iff.mp hg
  have hd := List.pairwise_iff_getElem.mp hs.distinct
  rcases Nat.lt_or_gt_of_ne hij with hl | hl
  · exact hd i j hi hj hl p hp hq
  · exact hd j i hj hi hl p hq hp

lemma lt_of_kept {i q : Nat} (hf : w.fields[i]? = some f) (hq : h.Keeps r shape f q) :
    q < h.lists.length :=
  (hs.apart f (List.mem_of_getElem? hf) q hq).1

lemma not_kept_of_mem {i p : Nat} (hp : .list p ∈ values) (hf : w.fields[i]? = some f) :
    ¬ h.Keeps r shape f p := by
  intro hq
  exact ((hs.apart f (List.mem_of_getElem? hf) p hq).2.2 p hp).2 rfl

end Separate

lemma Filled.source_eq (hs : start.Separate r w shape values source)
    (hF : Filled start r w shape values k h) (hl : source < start.lists.length) :
    h.items source = start.items source := by
  apply hF.lists source hl
  intro i _ f hf hq
  exact (hs.apart f (List.mem_of_getElem? hf) source hq).2.1 rfl

lemma Filled.contents_eq (hs : start.Separate r w shape values source)
    (hF : Filled start r w shape values k h) (hf : w.fields[k]? = some f)
    (hv : values[k]? = some v) {q : Nat} (hq : start.Keeps r shape f q) :
    h.contents v = start.contents v := by
  cases v with
  | list p =>
    have hm := List.mem_of_getElem? hv
    have hp := ((hs.apart f (List.mem_of_getElem? hf) q hq).2.2 p hm).1
    exact hF.lists p hp fun i _ g hg => hs.not_kept_of_mem hm hg
  | _ => rfl

lemma Filled.store_merged (hs : start.Separate r w shape values source)
    (hF : Filled start r w shape values k h) (hf : w.fields[k]? = some f)
    (hv : values[k]? = some v) {q : Nat} (hq : start.Keeps r shape f q) :
    Filled start r w shape values (k + 1) (h.setItems q (h.items q ++ h.contents v)) where
  assigned := by
    intro i hi g u hg hu hn
    have hik : i ≠ k := by
      rintro rfl
      obtain rfl := Option.some.inj (hf.symm.trans hg)
      exact hn q hq
    rw [field?_setItems]
    exact hF.assigned i (by omega) g u hg hu hn
  merged := by
    intro i hi g u p hg hu hp
    rw [field?_setItems]
    by_cases hik : i = k
    · subst hik
      obtain rfl := Option.some.inj (hf.symm.trans hg)
      obtain rfl := Option.some.inj (hv.symm.trans hu)
      obtain rfl : q = p := by simpa using hq.2.symm.trans hp.2
      obtain ⟨hh, hi⟩ := hF.later i f (Nat.le_refl i) hf
      have hl := Nat.lt_of_lt_of_le (hs.lt_of_kept hf hq) hF.grown
      refine ⟨hh.trans hq.2, ?_⟩
      rw [items_setItems_self h hl, hi q hq, hF.contents_eq hs hf hv hq]
    · rw [items_setItems_of_ne h (hs.kept_ne hg hf hik hp hq)]
      exact hF.merged i (by omega) g u p hg hu hp
  later := by
    intro i g hi hg
    obtain ⟨hh, hl⟩ := hF.later i g (by omega) hg
    refine ⟨by rw [field?_setItems, hh], fun p hp => ?_⟩
    rw [items_setItems_of_ne h (hs.kept_ne hg hf (by omega) hp hq), hl p hp]
  lists := by
    intro p hp hn
    have hne : p ≠ q := by
      rintro rfl
      exact hn k (Nat.lt_succ_self k) f hf hq
    rw [items_setItems_of_ne h hne]
    exact hF.lists p hp fun i hi => hn i (by omega)
  fields := by
    intro name hm
    rw [field?_setItems, hF.fields name hm]
  type := hF.type
  objects := hF.objects
  grown := by simpa using hF.grown

lemma Filled.store (hd : w.Distinct) (hs : start.Separate r w shape values source)
    (hF : Filled start r w shape values k h) (hf : w.fields[k]? = some f)
    (hv : values[k]? = some v) (hh : start.field? (.object r) f.name = some held) :
    Filled start r w shape values (k + 1) (h.store r f.name (shape f) held v) := by
  by_cases hk : ∃ q, start.Keeps r shape f q
  · obtain ⟨q, hq⟩ := hk
    obtain rfl : held = .list q := Option.some.inj (hh.symm.trans hq.2)
    have hm := hF.store_merged hs hf hv hq
    rw [hq.1]
    exact hm
  · have hn (q : Nat) : ¬ (shape f = .list ∧ held = .list q) := by
      rintro ⟨hl, rfl⟩
      exact hk ⟨q, hl, hh⟩
    have hl := h.lt_of_field? (((hF.later k f (Nat.le_refl k) hf).1).trans hh)
    rw [store_of_not_kept hn]
    exact hF.store_assigned hd hf hv (fun q hq => hk ⟨q, hq⟩) hl

def stop? (h : Heap) (r : Nat) (w : Wrapper) (shape : WrapperField → FieldShape)
    (values : List Value) (k : Nat) : Option RunError :=
  match w.fields[k]?, values[k]? with
  | none, _ => none
  | some _, none => some (.indexOutOfBounds k values.length)
  | some f, some v => (shape f).refusal? ((h.field? (.object r) f.name).getD .null) v

def FillsTo (start : Heap) (r : Nat) (w : Wrapper) (shape : WrapperField → FieldShape)
    (values : List Value) {α : Type} (a : α) (x : Outcome α) : Prop :=
  ∃ k h, start.Filled r w shape values k h ∧
    (∀ i < k, start.stop? r w shape values i = none) ∧
    ((k = w.fields.length ∧ x = .done a h) ∨
      ∃ e, k < w.fields.length ∧ start.stop? r w shape values k = some e ∧ x = .failed e h)

lemma FillsTo.imp {α β : Type} {a : α} {b : β} {x : Outcome α} {y : Outcome β}
    (hx : start.FillsTo r w shape values a x) (hd : ∀ h, x = .done a h → y = .done b h)
    (hf : ∀ e h, x = .failed e h → y = .failed e h) : start.FillsTo r w shape values b y := by
  obtain ⟨k, h, hF, hpre, hend⟩ := hx
  refine ⟨k, h, hF, hpre, ?_⟩
  rcases hend with ⟨hk, he⟩ | ⟨e, hk, hs, he⟩
  · exact .inl ⟨hk, hd h he⟩
  · exact .inr ⟨e, hk, hs, hf e h he⟩

section NewList

def keptLists (h : Heap) (r : Nat) (w : Wrapper) (shape : WrapperField → FieldShape) : List Nat :=
  (w.fields.filter (shape · = .list)).filterMap fun f =>
    (h.field? (.object r) f.name).bind Value.listRef?

lemma bind_listRef?_eq_some_iff {o : Option Value} {q : Nat} :
    o.bind Value.listRef? = some q ↔ o = some (.list q) := by
  simp only [Option.bind_eq_some_iff, Value.listRef?_eq_some_iff, exists_eq_right]

lemma mem_keptLists {q : Nat} :
    q ∈ h.keptLists r w shape ↔ ∃ f ∈ w.fields, h.Keeps r shape f q := by
  simp [keptLists, Keeps, bind_listRef?_eq_some_iff, and_assoc]

lemma mem_listRefs {p : Nat} : p ∈ values.filterMap Value.listRef? ↔ .list p ∈ values := by
  simp [Value.listRef?_eq_some_iff]

lemma pairwise_keeps (hd : (h.keptLists r w shape).Nodup) :
    w.fields.Pairwise fun f g => ∀ q, h.Keeps r shape f q → ¬ h.Keeps r shape g q := by
  rw [keptLists, List.Nodup, List.pairwise_filterMap, List.pairwise_filter] at hd
  refine hd.imp fun {f g} hn q hf hg => ?_
  exact hn (by simpa using hf.1) (by simpa using hg.1) q
    (bind_listRef?_eq_some_iff.mpr hf.2) q (bind_listRef?_eq_some_iff.mpr hg.2) rfl

variable (hl : ∀ q ∈ h.keptLists r w shape ++ values.filterMap Value.listRef?, q < h.lists.length)
include hl

lemma separate_newList (hd : (h.keptLists r w shape ++ values.filterMap Value.listRef?).Nodup) :
    (h.newList values).2.Separate r w shape values h.lists.length := by
  obtain ⟨hk, -, hdis⟩ := List.nodup_append'.mp hd
  refine ⟨pairwise_keeps (h := h) hk, fun f hf q hq => ?_⟩
  have hm : q ∈ h.keptLists r w shape := mem_keptLists.mpr ⟨f, hf, hq⟩
  have hql := hl q (List.mem_append_left _ hm)
  rw [lists_newList_length]
  refine ⟨by omega, by omega, fun p hp => ?_⟩
  have hpm := mem_listRefs.mpr hp
  have hpl := hl p (List.mem_append_right _ hpm)
  refine ⟨by omega, ?_⟩
  rintro rfl
  exact hdis hm hpm

lemma contents_newList (hv : v ∈ values) : (h.newList values).2.contents v = h.contents v := by
  cases v with
  | list p =>
    have hp := hl p (List.mem_append_right _ (mem_listRefs.mpr hv))
    exact items_newList_of_ne h (by omega)
  | _ => rfl

lemma Filled.of_newList (hF : (h.newList values).2.Filled r w shape values k start) :
    h.Filled r w shape values k start := by
  have hkept {f : WrapperField} {i q : Nat} (hf : w.fields[i]? = some f)
      (hq : h.Keeps r shape f q) : (h.newList values).2.items q = h.items q := by
    have hm := mem_keptLists.mpr ⟨f, List.mem_of_getElem? hf, hq⟩
    have hq := hl q (List.mem_append_left _ hm)
    exact items_newList_of_ne h (by omega)
  refine ⟨hF.assigned, ?_, ?_, ?_, hF.fields, hF.type, hF.objects, ?_⟩
  · intro i hi f v q hf hv hq
    rw [← hkept hf hq, ← contents_newList hl (List.mem_of_getElem? hv)]
    exact hF.merged i hi f v q hf hv hq
  · intro i f hi hf
    obtain ⟨hh, hls⟩ := hF.later i f hi hf
    refine ⟨hh, fun q hq => ?_⟩
    rw [hls q hq, hkept hf hq]
  · intro q hq hn
    have hlt : q < (h.newList values).2.lists.length := by
      rw [lists_newList_length]
      omega
    rw [hF.lists q hlt hn, items_newList_of_ne h (by omega)]
  · have hg := hF.grown
    rw [lists_newList_length] at hg
    omega

lemma FillsTo.of_newList {α : Type} {a : α} {x : Outcome α}
    (hx : (h.newList values).2.FillsTo r w shape values a x) :
    h.FillsTo r w shape values a x := by
  obtain ⟨k, h', hF, hrest⟩ := hx
  exact ⟨k, h', hF.of_newList hl, hrest⟩

end NewList

end Heap

end SoapWrap
