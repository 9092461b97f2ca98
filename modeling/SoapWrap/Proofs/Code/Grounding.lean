import Mathlib.Tactic.Lemma
import SoapWrap.Code.Basic
import SoapWrap.Metadata.Index
import SoapWrap.Synthesis.Settings

namespace SoapWrap

def Intrinsic.methods : List (MethodRef × Nat) := [
  (⟨listType, listGet⟩, 1), (⟨listType, listAddAll⟩, 1), (⟨listType, listPush⟩, 1),
  (⟨listType, listLen⟩, 0), (⟨holderType, holderValue⟩, 0),
  (⟨exceptionType, constructor⟩, 1), (⟨exceptionType, getMessage⟩, 0)]

def TypeExpr.builtins : List String := [listBase, holderBase, "void", "()"]

structure Codebase where
  index : Index
  settings : Settings
  emitted : List TypeDef

namespace Codebase

inductive KnowsBase (c : Codebase) : String → Prop
  | builtin {base : String} : base ∈ TypeExpr.builtins → KnowsBase c base
  | scalar {base : String} : base ∈ TypeExpr.scalars → KnowsBase c base
  | entry {base : String} : c.index.contains base = true → KnowsBase c base
  | emitted {d : TypeDef} : d ∈ c.emitted → KnowsBase c d.name

def Knows (c : Codebase) (t : TypeExpr) : Prop := ∀ u ∈ t.walk, c.KnowsBase u.base

inductive Grounds (c : Codebase) (fields : List String) : Op → Prop
  | allocateList {dst : Nat} {args : List Operand} :
      Grounds c fields (.allocate dst Intrinsic.listType args)
  | allocateEmitted {dst : Nat} {d : TypeDef} {m : MethodDef} {args : List Operand} :
      d ∈ c.emitted → d.constructor? = some m → m.params.length = args.length →
      Grounds c fields (.allocate dst d.name args)
  | allocateCompanion {dst : Nat} {package : String} :
      c.index.contains (c.settings.companionFor package) = true →
      Grounds c fields (.allocate dst (c.settings.companionFor package) [])
  | readField {dst : Nat} {field : String} : field ∈ fields →
      Grounds c fields (.readField dst .this field)
  | writeField {field : String} {value : Operand} : field ∈ fields →
      Grounds c fields (.writeField .this field value)
  | invokeIntrinsic {dst : Option Nat} {target : Operand} {method : MethodRef}
      {args : List Operand} : (method, args.length) ∈ Intrinsic.methods →
      Grounds c fields (.invoke dst target method args)
  | invokeEmitted {dst : Option Nat} {target : Operand} {d : TypeDef} {name : String}
      {m : MethodDef} {args : List Operand} : d ∈ c.emitted → d.instanceMethod? name = some m →
      m.params.length = args.length → Grounds c fields (.invoke dst target ⟨d.name, name⟩ args)
  | branchOnNull {value : Operand} {then_ otherwise : List Op} :
      (∀ op ∈ then_, Grounds c fields op) → (∀ op ∈ otherwise, Grounds c fields op) →
      Grounds c fields (.branchOnNull value then_ otherwise)
  | return {value : Option Operand} : Grounds c fields (.return value)

structure GroundsMethod (c : Codebase) (fields : List String) (m : MethodDef) : Prop where
  params : ∀ t ∈ m.params, c.Knows t
  returns : c.Knows m.returns
  body : ∀ op ∈ m.body, c.Grounds fields op

structure GroundsType (c : Codebase) (d : TypeDef) : Prop where
  fields : ∀ f ∈ d.fields, c.Knows f.type
  methods : ∀ m ∈ d.methods, c.GroundsMethod (d.fields.map (·.name)) m

variable {c : Codebase}

lemma knows_named {base : String} (h : c.KnowsBase base) : c.Knows (.named base) := by
  intro u hu
  simp only [TypeExpr.named, TypeExpr.walk, TypeExpr.walkAll, List.mem_singleton] at hu
  exact hu ▸ h

lemma knows_void : c.Knows .void :=
  knows_named (.builtin (by decide))

lemma knows_string : c.Knows (.named "string") :=
  knows_named (.scalar (by decide))

lemma knows_anyList : c.Knows (.listOf (.named "any")) := by
  intro u hu
  simp only [TypeExpr.listOf, TypeExpr.named, TypeExpr.walk, TypeExpr.walkAll, List.append_nil,
    List.mem_cons, List.not_mem_nil, or_false] at hu
  rcases hu with rfl | rfl
  · exact .builtin (by decide)
  · exact .scalar (by decide)

lemma knowsBase_of_index {t : TypeExpr} (h : c.index.knowsBase t = true) : c.KnowsBase t.base := by
  rw [Index.knowsBase] at h
  split at h
  · next hb =>
    rcases hb with hb | hb
    · exact .builtin (by rw [hb]; decide)
    · exact .builtin (by rw [hb]; decide)
  · rw [Bool.or_eq_true, Bool.or_eq_true] at h
    rcases h with (hv | hs) | hi
    · have hv : t.base = "void" ∨ t.base = "()" := by
        simpa [TypeExpr.isVoid] using (Bool.and_eq_true_iff.mp hv).2
      rcases hv with hv | hv
      · exact .builtin (by rw [hv]; decide)
      · exact .builtin (by rw [hv]; decide)
    · have hs : t.base ∈ TypeExpr.scalars := by
        simpa using (Bool.and_eq_true_iff.mp hs).2
      exact .scalar hs
    · exact .entry hi

mutual
lemma knows_of_resolves {t : TypeExpr} (h : c.index.resolves t = true) : c.Knows t := by
  obtain ⟨base, args⟩ := t
  rw [Index.resolves, Bool.and_eq_true] at h
  intro u hu
  rw [TypeExpr.walk, List.mem_cons] at hu
  rcases hu with rfl | hu
  · exact knowsBase_of_index h.1
  · exact knows_of_resolvesAll h.2 u hu
lemma knows_of_resolvesAll {ts : List TypeExpr} (h : c.index.resolvesAll ts = true) :
    ∀ u ∈ TypeExpr.walkAll ts, c.KnowsBase u.base := by
  intro u hu
  cases ts with
  | nil => simp [TypeExpr.walkAll] at hu
  | cons t rest =>
    rw [Index.resolvesAll, Bool.and_eq_true] at h
    rw [TypeExpr.walkAll, List.mem_append] at hu
    rcases hu with hu | hu
    · exact knows_of_resolves h.1 u hu
    · exact knows_of_resolvesAll h.2 u hu
end

end Codebase

end SoapWrap
