import Mathlib.Data.List.Nodup
import Mathlib.Tactic.Lemma
import SoapWrap.Synthesis.Wrapper

namespace SoapWrap

namespace Naming

lemma accessor_inj {start a b : String} :
    accessor start a = accessor start b ↔
      (words a.toList).flatMap Text.capitalize = (words b.toList).flatMap Text.capitalize := by
  simp [accessor, String.ofList_inj]

lemma setterIdentifier_inj {a b : String} :
    setterIdentifier a = setterIdentifier b ↔ getterIdentifier a = getterIdentifier b := by
  simp only [setterIdentifier, getterIdentifier, accessor_inj]

lemma getterIdentifier_ne_setterIdentifier (a b : String) :
    getterIdentifier a ≠ setterIdentifier b := by
  intro h
  have hl := congrArg String.toList h
  simp [getterIdentifier, setterIdentifier, accessor] at hl

lemma getterIdentifier_ne_constructor (a : String) :
    getterIdentifier a ≠ Intrinsic.constructor := by
  intro h
  have hl := congrArg String.toList h
  simp [getterIdentifier, accessor, Intrinsic.constructor] at hl

lemma setterIdentifier_ne_constructor (a : String) :
    setterIdentifier a ≠ Intrinsic.constructor := by
  intro h
  have hl := congrArg String.toList h
  simp [setterIdentifier, accessor, Intrinsic.constructor] at hl

end Naming

namespace Scope

variable {s : Scope} {op : Operation} {kind : WrapperKind} {w : Wrapper}

lemma repeatedField?_eq_none {names getters : List String} {fs : List WrapperField}
    (h : repeatedField? names getters fs = none) :
    ((fs.map (·.name)).Nodup ∧ ∀ f ∈ fs, f.name ∉ names) ∧
      (fs.map (·.getter)).Nodup ∧ ∀ f ∈ fs, f.getter ∉ getters := by
  induction fs generalizing names getters with
  | nil => simp
  | cons f rest ih =>
    rw [repeatedField?] at h
    split at h
    · simp at h
    · next hf =>
      rw [not_or] at hf
      obtain ⟨⟨hn, hns⟩, hg, hgs⟩ := ih h
      simp only [List.mem_cons, not_or] at hns hgs
      simp only [List.map_cons, List.nodup_cons, List.mem_map, not_exists, not_and,
        List.forall_mem_cons]
      exact ⟨⟨⟨fun g hm he => (hns g hm).1 he, hn⟩, hf.1, fun g hm => (hns g hm).2⟩,
        ⟨fun g hm he => (hgs g hm).1 he, hg⟩, hf.2, fun g hm => (hgs g hm).2⟩

lemma wrapper_ok (h : s.wrapper op kind = .ok w) :
    (∀ e ∈ elements kind op, s.index.resolves e.declaredType = true) ∧
      repeatedField? [] [] ((elements kind op).map field) = none ∧
      w = {
        name := s.wrapperName op kind, kind
        fields := (elements kind op).map field
        package := s.package
        xmlNamespace := s.xmlNamespace
        elementName := elementName op kind } := by
  rw [wrapper] at h
  dsimp only at h
  split at h
  · simp at h
  · next hr =>
    split at h
    · simp at h
    · next hf =>
      refine ⟨fun e he => ?_, hf, (Except.ok.inj h).symm⟩
      simpa using List.find?_eq_none.mp hr e he

lemma wrapper_package (h : s.wrapper op kind = .ok w) : w.package = s.package := by
  obtain ⟨-, -, rfl⟩ := wrapper_ok h
  rfl

lemma wrapper_qualifiedName (h : s.wrapper op kind = .ok w) (hp : s.package ≠ "") :
    w.qualifiedName = s.package ++ "." ++ s.wrapperName op kind := by
  obtain ⟨-, -, rfl⟩ := wrapper_ok h
  exact if_neg hp

end Scope

namespace Wrapper

structure Distinct (w : Wrapper) : Prop where
  names : (w.fields.map (·.name)).Nodup
  getters : (w.fields.map (·.getter)).Nodup
  setters : (w.fields.map (·.setter)).Nodup
  apart : ∀ f ∈ w.fields, ∀ g ∈ w.fields, f.getter ≠ g.setter
  getter_ne : ∀ f ∈ w.fields, f.getter ≠ Intrinsic.constructor
  setter_ne : ∀ f ∈ w.fields, f.setter ≠ Intrinsic.constructor

lemma distinct_of_wrapper_ok {s : Scope} {op : Operation} {kind : WrapperKind} {w : Wrapper}
    (h : s.wrapper op kind = .ok w) : w.Distinct := by
  obtain ⟨-, hr, rfl⟩ := Scope.wrapper_ok h
  obtain ⟨⟨hn, -⟩, hg, -⟩ := Scope.repeatedField?_eq_none hr
  refine ⟨hn, hg, ?_, ?_, ?_, ?_⟩
  · rw [List.map_map, List.Nodup, List.pairwise_map] at hg ⊢
    exact hg.imp fun hne he => hne (Naming.setterIdentifier_inj.mp he)
  · intro f hf g hg'
    obtain ⟨e, -, rfl⟩ := List.mem_map.mp hf
    obtain ⟨e', -, rfl⟩ := List.mem_map.mp hg'
    exact Naming.getterIdentifier_ne_setterIdentifier e.wireName e'.wireName
  · intro f hf
    obtain ⟨e, -, rfl⟩ := List.mem_map.mp hf
    exact Naming.getterIdentifier_ne_constructor e.wireName
  · intro f hf
    obtain ⟨e, -, rfl⟩ := List.mem_map.mp hf
    exact Naming.setterIdentifier_ne_constructor e.wireName

lemma Distinct.name_ne {w : Wrapper} (hd : w.Distinct) {i j : Nat} {f g : WrapperField}
    (hf : w.fields[i]? = some f) (hg : w.fields[j]? = some g) (hij : i ≠ j) : f.name ≠ g.name := by
  intro he
  have hi : (w.fields.map (·.name))[i]? = some f.name := by simp [hf]
  have hj : (w.fields.map (·.name))[j]? = some f.name := by simp [hg, he]
  obtain ⟨hl, -⟩ := List.getElem?_eq_some_iff.mp hi
  exact hij ((List.getElem?_inj hl hd.names).mp (hi.trans hj.symm))

end Wrapper

end SoapWrap
