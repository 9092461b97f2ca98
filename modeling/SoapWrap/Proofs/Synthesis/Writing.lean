import Mathlib.Algebra.Group.Nat.Defs
import SoapWrap.Proofs.Code.Parsed
import SoapWrap.Proofs.Synthesis.AdapterSteps
import SoapWrap.Synthesis.Interface

namespace SoapWrap

structure Op.Plain (op : Op) : Prop where
  fits : op.fits = true
  depth : op.depth ≤ 1

section Operations

variable {slot : Nat}

lemma fitsUnsigned_natCast (h : slot < 2 ^ 64) : fitsUnsigned slot = true := by
  simp only [fitsUnsigned, Bool.and_eq_true, decide_eq_true_eq]
  omega

lemma fitsSigned_natCast {n : Nat} (h : n < 2 ^ 63) : fitsSigned n = true := by
  simp only [fitsSigned, Bool.and_eq_true, decide_eq_true_eq]
  omega

lemma Operand.fits_local (h : slot < 2 ^ 64) : (Operand.local slot).fits = true :=
  fitsUnsigned_natCast h

lemma Operand.all_fits_local (h : slot < 2 ^ 64) : [Operand.local slot].all Operand.fits = true := by
  rw [List.all_cons, Operand.fits_local h, List.all_nil, Bool.and_true]

namespace Op

lemma plain_invoke {dst : Option Nat} {target : Operand} (method : MethodRef) {args : List Operand}
    (hdst : ∀ slot ∈ dst, slot < 2 ^ 64) (htarget : target.fits = true)
    (hargs : args.all Operand.fits = true) : (invoke dst target method args).Plain := by
  have hslot : dst.all (fun slot : Nat => fitsUnsigned slot) = true :=
    (Option.all_eq_true _ _).mpr fun slot h => fitsUnsigned_natCast (hdst slot h)
  refine ⟨?_, Nat.zero_le 1⟩
  rw [fits, hslot, htarget, hargs]
  rfl

lemma plain_allocate {dst : Nat} (type : String) {args : List Operand} (hdst : dst < 2 ^ 64)
    (hargs : args.all Operand.fits = true) : (allocate dst type args).Plain := by
  refine ⟨?_, Nat.zero_le 1⟩
  rw [fits, fitsUnsigned_natCast hdst, hargs]
  rfl

lemma fitsAll_iff {ops : List Op} : fitsAll ops = true ↔ ∀ op ∈ ops, op.fits = true := by
  induction ops with
  | nil => exact iff_of_true rfl (List.forall_mem_nil _)
  | cons op rest ih => rw [fitsAll, Bool.and_eq_true, ih, List.forall_mem_cons]

lemma depthAll_le_iff {n : Nat} {ops : List Op} : depthAll ops ≤ n ↔ ∀ op ∈ ops, op.depth ≤ n := by
  induction ops with
  | nil => exact iff_of_true (Nat.zero_le n) (List.forall_mem_nil _)
  | cons op rest ih => rw [depthAll, Nat.max_le, ih, List.forall_mem_cons]

lemma plain_all {ops : List Op} (hfits : fitsAll ops = true) (hdepth : depthAll ops ≤ 1) :
    ∀ op ∈ ops, op.Plain :=
  fun op h => ⟨fitsAll_iff.mp hfits op h, depthAll_le_iff.mp hdepth op h⟩

lemma plain_branchOnNull {value : Operand} {then_ otherwise : List Op} (hvalue : value.fits = true)
    (hfits : ∀ op ∈ then_ ++ otherwise, op.fits = true)
    (hdepth : ∀ op ∈ then_ ++ otherwise, op.depth = 0) :
    (branchOnNull value then_ otherwise).Plain := by
  rw [List.forall_mem_append] at hfits hdepth
  constructor
  · rw [fits, hvalue, fitsAll_iff.mpr hfits.1, fitsAll_iff.mpr hfits.2]
    rfl
  · refine Nat.succ_le_succ (Nat.max_le.mpr ⟨?_, ?_⟩)
    · exact depthAll_le_iff.mpr fun op h => Nat.le_of_eq (hdepth.1 op h)
    · exact depthAll_le_iff.mpr fun op h => Nat.le_of_eq (hdepth.2 op h)

end Op

end Operations

def TypeDef.Plain (d : TypeDef) : Prop := ∀ m ∈ d.methods, ∀ op ∈ m.body, op.Plain

namespace Adapter

variable {wrapper setter : String} {position slot : Nat}

lemma plain_setterCall (h : slot < 2 ^ 64) : (setterCall wrapper setter slot).Plain :=
  Op.plain_invoke _ (fun _ h => by cases h) (by decide) (Operand.all_fits_local h)

lemma plain_pushCall (h : slot < 2 ^ 64) : (pushCall slot).Plain :=
  Op.plain_invoke _ (fun _ h => by cases h) (by decide) (Operand.all_fits_local h)

-- A step takes one position and at most two slots.
lemma plain_populateOps (steps : List ConstructStep) (hslot : slot + 2 * steps.length < 2 ^ 64)
    (hposition : position + steps.length < 2 ^ 63) :
    ∀ op ∈ populateOps wrapper position slot steps, op.Plain := by
  induction steps generalizing position slot with
  | nil => exact List.forall_mem_nil _
  | cons step rest ih =>
    rw [List.length_cons] at hslot hposition
    have hat : slot < 2 ^ 64 := by omega
    have hindex : [Operand.const (.int position)].all Operand.fits = true := by
      rw [List.all_cons, Operand.fits, Constant.fits, fitsSigned_natCast (by omega)]
      rfl
    have hget : (Op.invoke (some slot) (.param 1) ⟨Intrinsic.listType, Intrinsic.listGet⟩
        [.const (.int position)]).Plain :=
      Op.plain_invoke _ (fun _ h => Option.some.inj h ▸ hat) (by decide) hindex
    cases step with
    | mergeList getter setter =>
      have hnext : slot + 1 < 2 ^ 64 := by omega
      have hadd : (Op.invoke none (.local (slot + 1)) ⟨Intrinsic.listType, Intrinsic.listAddAll⟩
          [.local slot]).Plain :=
        Op.plain_invoke _ (fun _ h => by cases h) (Operand.fits_local hnext)
          (Operand.all_fits_local hat)
      simp only [populateOps, List.forall_mem_cons]
      refine ⟨hget, ?_, ?_, ih (by omega) (by omega)⟩
      · exact Op.plain_invoke _ (fun _ h => Option.some.inj h ▸ hnext) (by decide) rfl
      · apply Op.plain_branchOnNull (Operand.fits_local hnext)
        · exact forall_mem_pair.mpr ⟨(plain_setterCall hat).fits, hadd.fits⟩
        · exact forall_mem_pair.mpr ⟨rfl, rfl⟩
    | passHolder setter =>
      simp only [populateOps, List.forall_mem_cons]
      exact ⟨hget, plain_setterCall hat, ih (by omega) (by omega)⟩
    | assign setter =>
      simp only [populateOps, List.forall_mem_cons]
      exact ⟨hget, plain_setterCall hat, ih (by omega) (by omega)⟩

lemma plain_decomposeOps (steps : List DecomposeStep) (hslot : slot + 2 * steps.length < 2 ^ 64) :
    ∀ op ∈ decomposeOps wrapper slot steps, op.Plain := by
  induction steps generalizing slot with
  | nil => exact List.forall_mem_nil _
  | cons step rest ih =>
    rw [List.length_cons] at hslot
    have hat : slot < 2 ^ 64 := by omega
    have hget : (Op.invoke (some slot) (.param 0) ⟨wrapper, step.getter⟩ []).Plain :=
      Op.plain_invoke _ (fun _ h => Option.some.inj h ▸ hat) (by decide) rfl
    cases step with
    | read getter =>
      simp only [decomposeOps, List.forall_mem_cons]
      exact ⟨hget, plain_pushCall hat, ih (by omega)⟩
    | unwrapHolder getter =>
      have hnext : slot + 1 < 2 ^ 64 := by omega
      have hvalue : (Op.invoke (some (slot + 1)) (.local slot)
          ⟨Intrinsic.holderType, Intrinsic.holderValue⟩ []).Plain :=
        Op.plain_invoke _ (fun _ h => Option.some.inj h ▸ hnext) (Operand.fits_local hat) rfl
      simp only [decomposeOps, List.forall_mem_cons]
      refine ⟨hget, ?_, ih (by omega)⟩
      apply Op.plain_branchOnNull (Operand.fits_local hat)
      · simp only [List.cons_append, List.nil_append, List.forall_mem_cons]
        exact ⟨(plain_pushCall hat).fits, hvalue.fits, (plain_pushCall hnext).fits,
          List.forall_mem_nil _⟩
      · simp only [List.cons_append, List.nil_append, List.forall_mem_cons]
        exact ⟨rfl, rfl, rfl, List.forall_mem_nil _⟩

lemma typeDef_plain {a : Adapter} (hconstruct : a.construct.length ≤ 2 ^ 62)
    (hdecompose : a.decompose.length ≤ 2 ^ 62) : a.typeDef.Plain := by
  have hcount : [Operand.const (.int a.decompose.length)].all Operand.fits = true := by
    rw [List.all_cons, Operand.fits, Constant.fits, fitsSigned_natCast (by omega)]
    rfl
  simp only [TypeDef.Plain, typeDef, List.forall_mem_cons]
  refine ⟨?_, ?_, ?_, ?_, ?_, List.forall_mem_nil _⟩
  · rw [MethodDef.ofConstructor, constructorBody]
    split
    · exact Op.plain_all rfl (Nat.zero_le 1)
    · exact Op.plain_all rfl (Nat.zero_le 1)
  · exact Op.plain_all rfl (Nat.zero_le 1)
  · exact Op.plain_all rfl (Nat.zero_le 1)
  · rw [MethodDef.ofInstance, populateBody, List.forall_mem_append]
    exact ⟨plain_populateOps _ (by omega) (by omega), Op.plain_all rfl (Nat.zero_le 1)⟩
  · rw [MethodDef.ofInstance, decomposeBody, List.cons_append, List.forall_mem_cons,
      List.forall_mem_append]
    exact ⟨Op.plain_allocate _ (by decide) hcount, plain_decomposeOps _ (by omega),
      Op.plain_all rfl (Nat.zero_le 1)⟩

end Adapter

lemma Wrapper.typeDef_plain (w : Wrapper) : w.typeDef.Plain := by
  rw [TypeDef.Plain, typeDef, List.forall_mem_cons, List.forall_mem_flatMap]
  refine ⟨Op.plain_all rfl (Nat.zero_le 1), fun f _ => forall_mem_pair.mpr ⟨?_, ?_⟩⟩
  · exact Op.plain_all rfl (Nat.zero_le 1)
  · exact Op.plain_all rfl (Nat.zero_le 1)

lemma Factory.typeDef_plain (settings : Settings) (w : Wrapper) :
    (ofWrapper settings w).typeDef.Plain := by
  refine forall_mem_pair.mpr ⟨?_, ?_⟩
  · exact Op.plain_all rfl (Nat.zero_le 1)
  · exact Op.plain_all rfl (Nat.zero_le 1)

lemma Fault.typeDef_plain (f : Fault) : f.typeDef.Plain := by
  refine forall_mem_pair.mpr ⟨?_, ?_⟩
  · exact Op.plain_all rfl (Nat.zero_le 1)
  · exact Op.plain_all rfl (Nat.zero_le 1)

lemma PackageInfo.typeDef_plain (p : PackageInfo) : p.typeDef.Plain := List.forall_mem_nil _

section Readable

lemma TypeExpr.string_parsed : (TypeExpr.named "string").Parsed := ⟨"string", by decide +kernel⟩

lemma TypeExpr.anyList_parsed : (TypeExpr.listOf (.named "any")).Parsed :=
  ⟨"list<any>", by decide +kernel⟩

open TypeExpr (string_parsed void_parsed anyList_parsed parsed_named_iff IsName)

lemma Wrapper.typeExprs_parsed {w : Wrapper} (h : ∀ f ∈ w.fields, f.declaredType.Parsed) :
    ∀ t ∈ w.typeDef.typeExprs, t.Parsed := by
  rw [TypeDef.typeExprs, List.forall_mem_append, List.forall_mem_map, typeDef,
    List.forall_mem_map, List.forall_mem_flatMap, List.forall_mem_cons, List.forall_mem_flatMap]
  refine ⟨h, List.forall_mem_singleton.mpr void_parsed, fun f hf => ?_⟩
  refine forall_mem_pair.mpr ⟨?_, ?_⟩
  · exact List.forall_mem_singleton.mpr (h f hf)
  · exact forall_mem_pair.mpr ⟨h f hf, void_parsed⟩

lemma Adapter.typeExprs_parsed_iff {a : Adapter} :
    (∀ t ∈ a.typeDef.typeExprs, t.Parsed) ↔
      IsName a.wrapper.toList ∧ ∀ c ∈ a.objectFactory, IsName c.toList := by
  rw [TypeDef.typeExprs, List.forall_mem_append, List.forall_mem_map, typeDef,
    List.forall_mem_map, List.forall_mem_flatMap]
  simp only [Option.mem_toList, parsed_named_iff]
  constructor
  · rintro ⟨hcompanion, hmethods⟩
    have hconstruct := hmethods _ (.tail _ (.tail _ (.head _)))
    exact ⟨parsed_named_iff.mp (hconstruct _ (.tail _ (.head _))), hcompanion⟩
  · rintro ⟨hwrapper, hcompanion⟩
    have hwrapper : (TypeExpr.named a.wrapper).Parsed := parsed_named_iff.mpr hwrapper
    refine ⟨hcompanion, ?_⟩
    simp only [List.forall_mem_cons]
    refine ⟨?_, ?_, ?_, ?_, ?_, List.forall_mem_nil _⟩
    · exact List.forall_mem_singleton.mpr void_parsed
    · exact List.forall_mem_singleton.mpr string_parsed
    · exact forall_mem_pair.mpr ⟨anyList_parsed, hwrapper⟩
    · rw [MethodDef.typeExprs, List.forall_mem_append]
      exact ⟨forall_mem_pair.mpr ⟨hwrapper, anyList_parsed⟩,
        List.forall_mem_singleton.mpr void_parsed⟩
    · exact forall_mem_pair.mpr ⟨hwrapper, anyList_parsed⟩

lemma Factory.typeExprs_parsed_iff {f : Factory} :
    (∀ t ∈ f.typeDef.typeExprs, t.Parsed) ↔ IsName f.wrapper.toList := by
  rw [TypeDef.typeExprs, typeDef, List.map_nil, List.nil_append, List.forall_mem_flatMap,
    forall_mem_pair, ← parsed_named_iff]
  constructor
  · rintro ⟨-, hcreate⟩
    exact List.forall_mem_singleton.mp hcreate
  · intro hwrapper
    exact ⟨List.forall_mem_singleton.mpr void_parsed, List.forall_mem_singleton.mpr hwrapper⟩

lemma Fault.typeExprs_parsed {f : Fault} (h : f.payloadType.Parsed) :
    ∀ t ∈ f.typeDef.typeExprs, t.Parsed := by
  rw [TypeDef.typeExprs, typeDef, List.forall_mem_append, List.forall_mem_map,
    List.forall_mem_singleton, List.forall_mem_flatMap, forall_mem_pair]
  refine ⟨h, ?_, List.forall_mem_singleton.mpr h⟩
  rw [MethodDef.typeExprs, List.forall_mem_append]
  exact ⟨forall_mem_pair.mpr ⟨string_parsed, h⟩, List.forall_mem_singleton.mpr void_parsed⟩

end Readable

end SoapWrap
