import SoapWrap.Proofs.Machine.Overstep

/-! Paths through operations and the slots that are written on them. Where every path reads only what
is there, a run of the operations never lacks an operand. -/

namespace SoapWrap

section Paths

/-- The operations that are run one after the other, for one choice of branches. A run may stop at any
of them, and goes on behind none that returns. -/
inductive Op.Path : List Op → List Op → Prop
  | stop {ops : List Op} : Path ops []
  | plain {op : Op} {rest path : List Op} (hplain : op.branches = [])
    (hgoes : ∀ value, op ≠ .return value) (h : Path rest path) : Path (op :: rest) (op :: path)
  | returned {value : Option Operand} {rest : List Op} :
    Path (.return value :: rest) [.return value]
  | branch {value : Operand} {as bs branch rest path : List Op} (hbranch : branch = as ∨ branch = bs)
    (h : Path (branch ++ rest) path) :
    Path (.branchOnNull value as bs :: rest) (.branchOnNull value as bs :: path)

structure KeepsSlots (params : Nat) (path : List Op) : Prop where
  written_once : (path.filterMap Op.slot?).Nodup
  written_before : ∀ before op after slot, path = before ++ op :: after →
    .local slot ∈ op.operands → slot ∈ before.filterMap Op.slot?
  param_lt : ∀ op ∈ path, ∀ i, .param i ∈ op.operands → i < params

@[simp] def Operand.Known (params : Nat) (written : List Nat) : Operand → Prop
  | .this => True
  | .param i => i < params
  | .local slot => slot ∈ written
  | .const _ => True

namespace Op

variable {op : Op} {path rest as bs : List Op} {params : Nat} {written : List Nat}
variable {value : Operand}

structure Sound (params : Nat) (written : List Nat) (op : Op) : Prop where
  known : ∀ o ∈ op.operands, o.Known params written
  fresh : ∀ slot, op.slot? = some slot → slot ∉ written

inductive SoundPath (params : Nat) : List Nat → List Op → Prop
  | nil {written : List Nat} : SoundPath params written []
  | cons {written : List Nat} {op : Op} {path : List Op} (hop : op.Sound params written)
    (h : SoundPath params (op.slot?.toList ++ written) path) : SoundPath params written (op :: path)

namespace SoundPath

lemma nodup_slots (h : SoundPath params written path) :
    (path.filterMap slot?).Nodup ∧ ∀ slot ∈ path.filterMap slot?, slot ∉ written := by
  induction h with
  | nil => exact ⟨List.nodup_nil, List.forall_mem_nil _⟩
  | @cons written op path hop _ ih =>
    obtain ⟨hnodup, hfresh⟩ := ih
    cases hslot : op.slot? with
    | none =>
      rw [hslot, Option.toList_none, List.nil_append] at hfresh
      rw [List.filterMap_cons_none hslot]
      exact ⟨hnodup, hfresh⟩
    | some slot =>
      rw [hslot, Option.toList_some, List.singleton_append] at hfresh
      rw [List.filterMap_cons_some hslot]
      refine ⟨List.nodup_cons.mpr ⟨fun hmem => ?_, hnodup⟩, List.forall_mem_cons.mpr ⟨?_, ?_⟩⟩
      · exact hfresh slot hmem List.mem_cons_self
      · exact hop.fresh slot hslot
      · exact fun other hother hmem => hfresh other hother (List.mem_cons_of_mem slot hmem)

lemma drop {before after : List Op} (h : SoundPath params written (before ++ after)) :
    ∃ more, SoundPath params more after ∧
      ∀ slot ∈ more, slot ∈ before.filterMap slot? ∨ slot ∈ written := by
  induction before generalizing written with
  | nil => exact ⟨written, h, fun _ hmem => .inr hmem⟩
  | cons op rest ih =>
    cases h with
    | cons _ h =>
      obtain ⟨more, hafter, hmore⟩ := ih h
      refine ⟨more, hafter, fun slot hmem => ?_⟩
      have hslot := hmore slot hmem
      cases hop : op.slot? with
      | none =>
        rw [hop, Option.toList_none, List.nil_append] at hslot
        rwa [List.filterMap_cons_none hop]
      | some first =>
        rw [hop, Option.toList_some, List.singleton_append, List.mem_cons] at hslot
        rwa [List.filterMap_cons_some hop, List.mem_cons, or_assoc, or_left_comm]

lemma keepsSlots (h : SoundPath params [] path) : KeepsSlots params path where
  written_once := h.nodup_slots.1
  written_before before op after slot hpath hread := by
    rw [hpath] at h
    obtain ⟨more, hafter, hmore⟩ := h.drop
    cases hafter with
    | cons hop _ => exact (hmore slot (hop.known _ hread)).resolve_right List.not_mem_nil
  param_lt op hmem i hread := by
    obtain ⟨before, after, rfl⟩ := List.append_of_mem hmem
    obtain ⟨more, hafter, -⟩ := h.drop
    cases hafter with
    | cons hop _ => exact hop.known _ hread

end SoundPath

def Safe (params : Nat) (written : List Nat) (ops : List Op) : Prop :=
  ∀ path, Path ops path → SoundPath params written path

lemma safe_return_iff {value : Option Operand} :
    Safe params written (.return value :: rest) ↔ (.return value : Op).Sound params written := by
  constructor
  · intro h
    cases h _ .returned with
    | cons hop _ => exact hop
  · intro hop path hpath
    cases hpath with
    | stop => exact .nil
    | plain _ hgoes => exact absurd rfl (hgoes value)
    | returned => exact .cons hop .nil

lemma safe_branch_iff : Safe params written (.branchOnNull value as bs :: rest) ↔
    value.Known params written ∧ Safe params written (as ++ rest) ∧
      Safe params written (bs ++ rest) := by
  constructor
  · intro h
    have hrun (branch : List Op) (hbranch : branch = as ∨ branch = bs) :
        Safe params written (branch ++ rest) := by
      intro path hpath
      cases h _ (.branch hbranch hpath) with
      | cons _ h => exact h
    refine ⟨?_, hrun as (.inl rfl), hrun bs (.inr rfl)⟩
    cases h _ (.branch (.inl rfl) .stop) with
    | cons hop _ => exact hop.known value List.mem_cons_self
  · rintro ⟨hvalue, has, hbs⟩ path hpath
    have hop : (.branchOnNull value as bs : Op).Sound params written :=
      ⟨List.forall_mem_singleton.mpr hvalue, fun _ h => by cases h⟩
    cases hpath with
    | stop => exact .nil
    | plain hplain => cases hplain
    | branch hbranch hpath =>
      refine .cons hop ?_
      rcases hbranch with rfl | rfl
      · exact has _ hpath
      · exact hbs _ hpath

lemma safe_plain_iff (hplain : op.branches = []) (hgoes : ∀ value, op ≠ .return value) :
    Safe params written (op :: rest) ↔
      op.Sound params written ∧ Safe params (op.slot?.toList ++ written) rest := by
  constructor
  · intro h
    constructor
    · cases h _ (.plain hplain hgoes .stop) with
      | cons hop _ => exact hop
    · intro path hpath
      cases h _ (.plain hplain hgoes hpath) with
      | cons _ h => exact h
  · rintro ⟨hop, hrest⟩ path hpath
    cases hpath with
    | stop => exact .nil
    | plain _ _ hpath => exact .cons hop (hrest _ hpath)
    | returned => exact absurd rfl (hgoes _)
    | branch => cases hplain

lemma Safe.sound (h : Safe params written (op :: rest)) : op.Sound params written := by
  cases op with
  | «return» value => exact safe_return_iff.mp h
  | branchOnNull value as bs =>
    exact ⟨List.forall_mem_singleton.mpr (safe_branch_iff.mp h).1, fun _ h => by cases h⟩
  | _ => exact ((safe_plain_iff rfl (by simp)).mp h).1

lemma safe_slot {slot : Nat} (hslot : op.slot? = some slot)
    (hknown : ∀ o ∈ op.operands, o.Known params written) (hfresh : slot ∉ written)
    (hrest : Safe params (slot :: written) rest) : Safe params written (op :: rest) := by
  have hop : op.Sound params written :=
    ⟨hknown, fun other hother => Option.some.inj (hslot.symm.trans hother) ▸ hfresh⟩
  have hrest' : Safe params (op.slot?.toList ++ written) rest := by
    rw [hslot]
    exact hrest
  cases op with
  | allocate | readField | invoke => exact (safe_plain_iff rfl (by simp)).mpr ⟨hop, hrest'⟩
  | writeField | branchOnNull | «return» => cases hslot

lemma safe_slotless (hslot : op.slot? = none) (hplain : op.branches = [])
    (hgoes : ∀ value, op ≠ .return value) (hknown : ∀ o ∈ op.operands, o.Known params written)
    (hrest : Safe params written rest) : Safe params written (op :: rest) := by
  have hop : op.Sound params written := ⟨hknown, by simp [hslot]⟩
  refine (safe_plain_iff hplain hgoes).mpr ⟨hop, ?_⟩
  rw [hslot]
  exact hrest

end Op

end Paths

end SoapWrap
