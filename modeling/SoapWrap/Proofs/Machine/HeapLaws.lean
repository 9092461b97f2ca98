import Mathlib.Tactic.ByContra
import Mathlib.Tactic.Lemma
import SoapWrap.Machine.Value
import SoapWrap.Proofs.Dict

namespace SoapWrap.Heap

variable (h : Heap) {r q : Nat} {o : Object} {vs : List Value}

@[simp] lemma object_setItems : (h.setItems r vs).object q = h.object q := rfl

@[simp] lemma items_setObject : (h.setObject r o).items q = h.items q := rfl

@[simp] lemma lists_setItems_length : (h.setItems r vs).lists.length = h.lists.length := by
  simp [setItems]

@[simp] lemma lists_setObject : (h.setObject r o).lists = h.lists := rfl

@[simp] lemma objects_setItems : (h.setItems r vs).objects = h.objects := rfl

@[simp] lemma objects_setObject_length :
    (h.setObject r o).objects.length = h.objects.length := by
  simp [setObject]

lemma items_setItems_self (hr : r < h.lists.length) : (h.setItems r vs).items r = vs := by
  simp [items, setItems, hr]

lemma items_setItems_of_ne (hq : q ≠ r) : (h.setItems r vs).items q = h.items q := by
  simp [items, setItems, List.getElem?_set_ne hq.symm]

lemma object_setObject_self (hr : r < h.objects.length) : (h.setObject r o).object r = o := by
  simp [object, setObject, hr]

lemma object_setObject_of_ne (hq : q ≠ r) : (h.setObject r o).object q = h.object q := by
  simp [object, setObject, List.getElem?_set_ne hq.symm]

@[simp] lemma newList_fst : (h.newList vs).1 = .list h.lists.length := rfl

@[simp] lemma newObject_fst : (h.newObject o).1 = .object h.objects.length := rfl

@[simp] lemma object_newList : (h.newList vs).2.object q = h.object q := rfl

@[simp] lemma items_newObject : (h.newObject o).2.items q = h.items q := rfl

@[simp] lemma objects_newList : (h.newList vs).2.objects = h.objects := rfl

@[simp] lemma lists_newObject : (h.newObject o).2.lists = h.lists := rfl

@[simp] lemma lists_newList_length : (h.newList vs).2.lists.length = h.lists.length + 1 := by
  simp [newList]

@[simp] lemma objects_newObject_length :
    (h.newObject o).2.objects.length = h.objects.length + 1 := by
  simp [newObject]

@[simp] lemma items_newList_self : (h.newList vs).2.items h.lists.length = vs := by
  simp [items, newList]

lemma items_newList_of_ne (hq : q ≠ h.lists.length) : (h.newList vs).2.items q = h.items q := by
  rcases Nat.lt_or_gt_of_ne hq with hl | hl
  · simp only [items, newList, List.getElem?_append_left hl]
  · have hn : (h.lists ++ [vs])[q]? = none := by
      rw [List.getElem?_eq_none_iff, List.length_append, List.length_singleton]
      omega
    simp only [items, newList, hn, List.getElem?_eq_none (Nat.le_of_lt hl)]

lemma setItems_newList {us : List Value} :
    (h.newList vs).2.setItems h.lists.length us = (h.newList us).2 := by
  simp [setItems, newList]

@[simp] lemma object_newObject_self : (h.newObject o).2.object h.objects.length = o := by
  simp [object, newObject]

lemma object_newObject_of_lt (hq : q < h.objects.length) :
    (h.newObject o).2.object q = h.object q := by
  simp [object, newObject, List.getElem?_append_left hq]

def setField (h : Heap) (r : Nat) (name : String) (v : Value) : Heap :=
  h.setObject r { h.object r with fields := (h.object r).fields.insert name v }

variable {name other : String} {v w : Value}

@[simp] lemma items_setField : (h.setField r name v).items q = h.items q := rfl

@[simp] lemma lists_setField : (h.setField r name v).lists = h.lists := rfl

@[simp] lemma objects_setField_length :
    (h.setField r name v).objects.length = h.objects.length := by
  simp [setField]

lemma object_setField_of_ne (hq : q ≠ r) : (h.setField r name v).object q = h.object q :=
  object_setObject_of_ne h hq

lemma object_eq_default (hr : ¬ r < h.objects.length) : h.object r = ⟨"", .empty⟩ := by
  simp [object, List.getElem?_eq_none (Nat.le_of_not_lt hr)]

lemma type_setField : ((h.setField r name v).object q).type = (h.object q).type := by
  by_cases hq : q = r
  · subst hq
    by_cases hl : q < h.objects.length
    · rw [setField, object_setObject_self h hl]
    · rw [object_eq_default h hl, object_eq_default _ (by simpa using hl)]
  · rw [object_setField_of_ne h hq]

lemma lt_of_field? (hv : h.field? (.object r) name = some v) : r < h.objects.length := by
  by_contra hl
  rw [field?, object_eq_default h hl] at hv
  simp at hv

lemma field?_setField_self (hr : r < h.objects.length) :
    (h.setField r name v).field? (.object r) name = some v := by
  simp only [field?, setField, object_setObject_self h hr, Dict.get?_insert_self]

lemma field?_setField_of_ne (hn : other ≠ name) :
    (h.setField r name v).field? (.object r) other = h.field? (.object r) other := by
  by_cases hr : r < h.objects.length
  · simp only [field?, setField, object_setObject_self h hr, Dict.get?_insert_of_ne _ hn]
  · simp only [field?, object_eq_default h hr,
      object_eq_default (h.setField r name v) (by simpa using hr)]

@[simp] lemma field?_setItems {u : Value} :
    (h.setItems r vs).field? u name = h.field? u name := by
  cases u <;> rfl

end SoapWrap.Heap
