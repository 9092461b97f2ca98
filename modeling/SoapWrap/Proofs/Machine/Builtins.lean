import SoapWrap.Proofs.Machine.Execution

namespace SoapWrap

namespace Heap

def contents (h : Heap) : Value → List Value
  | .list q => h.items q
  | _ => []

lemma contents_eq_nil {h : Heap} {v : Value} (hv : ∀ q, v ≠ .list q) : h.contents v = [] := by
  cases v with
  | list q => exact absurd rfl (hv q)
  | _ => rfl

lemma setItems_items (h : Heap) (q : Nat) : h.setItems q (h.items q) = h := by
  have hs : h.lists.set q (h.items q) = h.lists := by
    by_cases hq : q < h.lists.length
    · simp [items, hq]
    · exact List.set_eq_of_length_le (Nat.le_of_not_lt hq)
  rw [setItems, hs]

end Heap

namespace Machine

variable {h : Heap} {q : Nat} {v : Value} {name : String} {args : List Value}

lemma getItem_done {items : List Value} {i : Nat} (hv : items[i]? = some v) :
    getItem items [.int i] h = .done v h := by
  have hi : ¬ ((i : Int) < 0) := by omega
  simp only [getItem, hi, if_false, Int.toNat_natCast, hv]
  rfl

lemma getItem_failed {items : List Value} {i : Nat} (hv : items[i]? = none) :
    getItem items [.int i] h = .failed (.indexOutOfBounds i items.length) h := by
  have hi : ¬ ((i : Int) < 0) := by omega
  simp only [getItem, hi, if_false, Int.toNat_natCast, hv]
  rfl

lemma listMethod_push :
    listMethod (.list q) Intrinsic.listPush [v] h =
      .done .null (h.setItems q (h.items q ++ [v])) := rfl

lemma listMethod_addAll_null :
    listMethod (.list q) Intrinsic.listAddAll [.null] h = .done .null h := rfl

lemma holderMethod_value {qname : QName} :
    holderMethod (.holder qname v) Intrinsic.holderValue h = .done v h := rfl

lemma holderMethod_failed (hn : v ≠ .null) (hh : ∀ qname payload, v ≠ .holder qname payload) :
    holderMethod v name h = .failed (.typeMismatch .holder v.kind) h := by
  cases v with
  | null => exact absurd rfl hn
  | holder qname payload => exact absurd rfl (hh qname payload)
  | _ => rfl

end Machine

end SoapWrap
