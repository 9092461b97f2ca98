import SoapWrap.Proofs.Json.RoundTrip
import SoapWrap.Synthesis.Manifest

namespace SoapWrap

namespace Json

variable {n : Nat} {j : Json} {items : List Json} {members : List (String × Json)}

lemma depth_lt_of_member {key : String} (h : (key, j) ∈ members) :
    j.depth < (obj members).depth := by
  rw [depth, Nat.lt_succ_iff]
  induction members with
  | nil => cases h
  | cons m rest ih =>
    rw [depthMembers]
    rcases List.mem_cons.mp h with rfl | h
    · exact Nat.le_max_left _ _
    · exact Nat.le_trans (ih h) (Nat.le_max_right _ _)

lemma depthItems_le (h : ∀ j ∈ items, j.depth ≤ n) : depthItems items ≤ n := by
  induction items with
  | nil => exact Nat.zero_le n
  | cons a rest ih =>
    rw [List.forall_mem_cons] at h
    exact Nat.max_le.mpr ⟨h.1, ih h.2⟩

lemma depthMembers_le (h : ∀ m ∈ members, m.2.depth ≤ n) : depthMembers members ≤ n := by
  induction members with
  | nil => exact Nat.zero_le n
  | cons m rest ih =>
    rw [List.forall_mem_cons] at h
    exact Nat.max_le.mpr ⟨h.1, ih h.2⟩

structure Within (n : Nat) (j : Json) : Prop where
  whole : j.Whole
  depth_le : j.depth ≤ n

lemma Within.mono {m : Nat} (h : j.Within n) (hle : n ≤ m) : j.Within m :=
  ⟨h.whole, Nat.le_trans h.depth_le hle⟩

lemma within_null : null.Within n := ⟨.null, Nat.zero_le n⟩

lemma within_int (i : Int) : (int i).Within n := ⟨.int i, Nat.zero_le n⟩

lemma within_str (s : String) : (str s).Within n := ⟨.str s, Nat.zero_le n⟩

lemma within_arr (h : ∀ j ∈ items, j.Within n) : (arr items).Within (n + 1) :=
  ⟨.arr fun j hj => (h j hj).whole, Nat.succ_le_succ (depthItems_le fun j hj => (h j hj).depth_le)⟩

lemma within_arr_map {α : Type} {write : α → Json} {as : List α}
    (h : ∀ a ∈ as, (write a).Within n) : (arr (as.map write)).Within (n + 1) :=
  within_arr (List.forall_mem_map.mpr h)

lemma within_obj (h : ∀ m ∈ members, m.2.Within n) : (obj members).Within (n + 1) :=
  ⟨.obj fun m hm => (h m hm).whole,
    Nat.succ_le_succ (depthMembers_le fun m hm => (h m hm).depth_le)⟩

lemma within_ofOption {α : Type} {write : α → Json} {value : Option α}
    (h : ∀ a ∈ value, (write a).Within n) : (ofOption write value).Within n := by
  cases value with
  | none => exact within_null
  | some a => exact h a rfl

lemma within_listMember {α : Type} {key : String} {write : α → Json} {as : List α}
    (h : ∀ a ∈ as, (write a).Within n) : ∀ m ∈ listMember key write as, m.2.Within (n + 1) := by
  cases as with
  | nil => exact List.forall_mem_nil _
  | cons a rest => exact List.forall_mem_singleton.mpr (within_arr_map h)

lemma within_optionMember {α : Type} {key : String} {write : α → Json} {value : Option α}
    (h : ∀ a ∈ value, (write a).Within n) : ∀ m ∈ optionMember key write value, m.2.Within n := by
  cases value with
  | none => exact List.forall_mem_nil _
  | some a => exact List.forall_mem_singleton.mpr (h a rfl)

end Json

open Json

lemma TypeExpr.within_toJson (t : TypeExpr) : t.toJson.Within 0 := within_str _

lemma Tag.within_toJson (t : Tag) : t.toJson.Within 2 := by
  refine within_obj (List.forall_mem_cons.mpr ⟨within_str _, ?_⟩)
  split
  · exact List.forall_mem_nil _
  · refine List.forall_mem_singleton.mpr (within_obj (List.forall_mem_map.mpr fun e _ => ?_))
    exact within_str e.2

lemma Constant.within_toJson (c : Constant) : c.toJson.Within 1 := by
  cases c with
  | null => exact within_str _
  | int i => exact within_obj (List.forall_mem_singleton.mpr (within_int i))
  | text s => exact within_obj (List.forall_mem_singleton.mpr (within_str s))

lemma Operand.within_toJson (o : Operand) : o.toJson.Within 2 := by
  cases o with
  | this => exact within_str _
  | param i => exact within_obj (List.forall_mem_singleton.mpr (within_int _))
  | «local» slot => exact within_obj (List.forall_mem_singleton.mpr (within_int _))
  | const c => exact within_obj (List.forall_mem_singleton.mpr c.within_toJson)

lemma within_operandsJson (args : List Operand) : (operandsJson args).Within 3 :=
  within_arr_map fun o _ => o.within_toJson

lemma MethodRef.within_toJson (m : MethodRef) : m.toJson.Within 1 :=
  within_obj (List.forall_mem_cons.mpr ⟨within_str _, List.forall_mem_singleton.mpr (within_str _)⟩)

mutual
-- A branch adds two levels, its object and an array in it; a constant that is passed on is four deep.
lemma Op.within_toJson (op : Op) : op.toJson.Within (2 * op.depth + 4) := by
  cases op with
  | allocate dst type args =>
    refine within_obj ?_
    simp only [List.forall_mem_cons]
    exact ⟨within_str _, within_int _, within_str _, within_operandsJson args,
      List.forall_mem_nil _⟩
  | readField dst object field =>
    refine within_obj ?_
    simp only [List.forall_mem_cons]
    exact ⟨within_str _, within_int _, object.within_toJson.mono (by omega), within_str _,
      List.forall_mem_nil _⟩
  | writeField object field value =>
    refine within_obj ?_
    simp only [List.forall_mem_cons]
    exact ⟨within_str _, object.within_toJson.mono (by omega), within_str _,
      value.within_toJson.mono (by omega), List.forall_mem_nil _⟩
  | invoke dst target method args =>
    refine within_obj ?_
    simp only [List.forall_mem_cons]
    exact ⟨within_str _, within_ofOption fun i _ => within_int i,
      target.within_toJson.mono (by omega), method.within_toJson.mono (by omega),
      within_operandsJson args, List.forall_mem_nil _⟩
  | branchOnNull value then_ otherwise =>
    have hthen : Op.depthAll then_ + 1 ≤ (Op.branchOnNull value then_ otherwise).depth :=
      Nat.succ_le_succ (Nat.le_max_left _ _)
    have hotherwise : Op.depthAll otherwise + 1 ≤ (Op.branchOnNull value then_ otherwise).depth :=
      Nat.succ_le_succ (Nat.le_max_right _ _)
    refine within_obj ?_
    simp only [List.forall_mem_cons]
    exact ⟨within_str _, value.within_toJson.mono (by omega),
      (within_arr (within_opsJson then_)).mono (by omega),
      (within_arr (within_opsJson otherwise)).mono (by omega), List.forall_mem_nil _⟩
  | «return» value =>
    refine within_obj ?_
    simp only [List.forall_mem_cons]
    exact ⟨within_str _, within_ofOption fun o _ => o.within_toJson.mono (by omega),
      List.forall_mem_nil _⟩
lemma within_opsJson (ops : List Op) :
    ∀ j ∈ opsJson ops, j.Within (2 * Op.depthAll ops + 4) := by
  cases ops with
  | nil => exact List.forall_mem_nil _
  | cons op rest =>
    have hfirst : op.depth ≤ Op.depthAll (op :: rest) := Nat.le_max_left _ _
    have hrest : Op.depthAll rest ≤ Op.depthAll (op :: rest) := Nat.le_max_right _ _
    exact List.forall_mem_cons.mpr ⟨(Op.within_toJson op).mono (by omega),
      fun j hj => (within_opsJson rest j hj).mono (by omega)⟩
end

lemma FieldDef.within_toJson (f : FieldDef) : f.toJson.Within 1 :=
  within_obj (List.forall_mem_cons.mpr
    ⟨within_str _, List.forall_mem_singleton.mpr f.type.within_toJson⟩)

variable {n : Nat}

lemma MethodDef.within_toJson {m : MethodDef} (h : Op.depthAll m.body ≤ n) :
    m.toJson.Within (2 * n + 6) := by
  refine within_obj ?_
  simp only [List.forall_mem_cons, List.forall_mem_append]
  refine ⟨within_str _, within_str _, ?_, m.returns.within_toJson.mono (by omega), ?_,
    (within_arr (within_opsJson m.body)).mono (by omega), List.forall_mem_nil _⟩
  · exact within_listMember fun t _ => t.within_toJson.mono (by omega)
  · exact within_listMember fun t _ => t.within_toJson.mono (by omega)

lemma TypeDef.within_toJson {d : TypeDef} (h : ∀ m ∈ d.methods, Op.depthAll m.body ≤ n) :
    d.toJson.Within (2 * n + 8) := by
  refine within_obj ?_
  simp only [List.forall_mem_cons, List.forall_mem_append]
  refine ⟨within_str _, ⟨⟨⟨?_, ?_⟩, ?_⟩, ?_⟩, ?_⟩
  · exact within_optionMember fun s _ => within_str s
  · exact within_listMember fun s _ => within_str s
  · exact within_listMember fun t _ => t.within_toJson.mono (by omega)
  · exact within_listMember fun f _ => f.within_toJson.mono (by omega)
  · exact within_listMember fun m hm => MethodDef.within_toJson (h m hm)

lemma Manifest.within_toJson {m : Manifest}
    (h : ∀ d ∈ m.types, ∀ method ∈ d.methods, Op.depthAll method.body ≤ n) :
    m.toJson.Within (2 * n + 9) :=
  within_arr_map fun d hd => TypeDef.within_toJson (h d hd)

mutual
lemma Op.depth_le_toJson (op : Op) : op.depth ≤ op.toJson.depth := by
  cases op with
  | branchOnNull value then_ otherwise =>
    have hthen := Op.depthAll_le_opsJson then_
    have hotherwise := Op.depthAll_le_opsJson otherwise
    simp only [Op.depth, Op.toJson, Json.depth, depthMembers]
    omega
  | _ => exact Nat.zero_le _
lemma Op.depthAll_le_opsJson (ops : List Op) : Op.depthAll ops ≤ depthItems (opsJson ops) := by
  cases ops with
  | nil => exact Nat.le_refl 0
  | cons op rest =>
    have hop := Op.depth_le_toJson op
    have hrest := Op.depthAll_le_opsJson rest
    simp only [Op.depthAll, opsJson, depthItems]
    omega
end

lemma MethodDef.depthAll_body_le (m : MethodDef) : Op.depthAll m.body ≤ m.toJson.depth := by
  have hops := Op.depthAll_le_opsJson m.body
  have hbody : (Json.arr (opsJson m.body)).depth < m.toJson.depth :=
    depth_lt_of_member (.tail _ (.tail _ (List.mem_append_right _ (.tail _
      (List.mem_append_right _ (List.mem_singleton_self _))))))
  rw [Json.depth] at hbody
  omega

end SoapWrap
