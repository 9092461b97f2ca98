import Mathlib.Data.List.Basic
import Mathlib.Tactic.Lemma
import SoapWrap.Proofs.Metadata.Places
import SoapWrap.Synthesis.Interface

namespace SoapWrap

namespace TypeInfo

variable (name : String) (methods : List MethodInfo) (info : TypeInfo)

def withMethods : TypeInfo := if info.name = name then { info with methods } else info

lemma withMethods_self : info.withMethods info.name methods = { info with methods } :=
  if_pos rfl

@[simp]
lemma withMethods_name : (info.withMethods name methods).name = info.name := by
  rw [withMethods]
  split <;> rfl

@[simp]
lemma withMethods_kind : (info.withMethods name methods).kind = info.kind := by
  rw [withMethods]
  split <;> rfl

@[simp]
lemma withMethods_tags : (info.withMethods name methods).tags = info.tags := by
  rw [withMethods]
  split <;> rfl

@[simp]
lemma withMethods_faultInfo : (info.withMethods name methods).faultInfo = info.faultInfo := by
  rw [withMethods]
  split <;> rfl

end TypeInfo

namespace Index

def withMethods (index : Index) (name : String) (methods : List MethodInfo) : Index where
  types := index.types.map (·.withMethods name methods)
  places := index.places
  built := by
    have hnames : (index.types.map (·.withMethods name methods)).map (·.name) =
        index.types.map (·.name) := by
      simp [Function.comp_def]
    rw [hnames]
    exact index.built

variable (index : Index) (name : String) (methods : List MethodInfo)

lemma get?_withMethods (other : String) :
    (index.withMethods name methods).get? other =
      (index.get? other).map (·.withMethods name methods) := by
  simp only [get?, withMethods, List.getElem?_map, Option.map_bind, Function.comp_def]

@[simp]
lemma contains_withMethods : (index.withMethods name methods).contains = index.contains := by
  funext other
  rfl

@[simp]
lemma knowsBase_withMethods : (index.withMethods name methods).knowsBase = index.knowsBase := by
  funext t
  rw [knowsBase, knowsBase, contains_withMethods]

mutual
lemma resolves_withMethods (t : TypeExpr) :
    (index.withMethods name methods).resolves t = index.resolves t := by
  obtain ⟨base, args⟩ := t
  rw [resolves, resolves, knowsBase_withMethods, resolvesAll_withMethods args]
lemma resolvesAll_withMethods (ts : List TypeExpr) :
    (index.withMethods name methods).resolvesAll ts = index.resolvesAll ts := by
  cases ts with
  | nil => rfl
  | cons t rest =>
    rw [resolvesAll, resolvesAll, resolves_withMethods t, resolvesAll_withMethods rest]
end

lemma classify_withMethods (builtin : String) (kind : Kind) (t : TypeExpr) :
    (index.withMethods name methods).classify builtin kind t = index.classify builtin kind t := by
  rw [classify, classify, get?_withMethods]
  cases index.get? t.base with
  | none => rfl
  | some info => simp only [Option.map_some, TypeInfo.withMethods_kind]

lemma extractThrown_withMethods (operation : String) (t : TypeExpr) :
    (index.withMethods name methods).extractThrown operation t =
      index.extractThrown operation t := by
  rw [extractThrown, extractThrown, get?_withMethods]
  cases index.get? t.base with
  | none => rfl
  | some info =>
    simp only [Option.map_some, TypeInfo.tag?, TypeInfo.withMethods_tags,
      TypeInfo.withMethods_faultInfo, resolves_withMethods]

@[simp]
lemma extractOperation_withMethods :
    (index.withMethods name methods).extractOperation = index.extractOperation := by
  funext m
  have hthrown : (index.withMethods name methods).extractThrown m.name =
      index.extractThrown m.name := by
    funext t
    exact extractThrown_withMethods index name methods m.name t
  rw [extractOperation, extractOperation, hthrown]

end Index

variable (index : Index) (name : String) (methods : List MethodInfo)

@[simp]
lemma FieldShape.ofType_withMethods :
    ofType (index.withMethods name methods) = ofType index := by
  funext strict t
  simp only [ofType, Index.classifyList, Index.classifyHolder, Index.classify_withMethods]

lemma Adapter.ofWrapper_withMethods (hasCompanion : String → Bool) (settings : Settings)
    (names : NameRegistry) (w : Wrapper) :
    ofWrapper (index.withMethods name methods) hasCompanion settings names w =
      ofWrapper index hasCompanion settings names w := by
  simp only [ofWrapper, FieldShape.ofType_withMethods]

namespace Scope

def withMethods (s : Scope) : Scope := { s with index := s.index.withMethods name methods }

lemma wrapper_withMethods (s : Scope) (op : Operation) (kind : WrapperKind) :
    (s.withMethods name methods).wrapper op kind = s.wrapper op kind := by
  have hr : (s.withMethods name methods).index.resolves = s.index.resolves :=
    funext (Index.resolves_withMethods s.index name methods)
  rw [wrapper, wrapper, hr]
  rfl

end Scope

namespace Synthesizer

variable (s : Synthesizer)

def withMethods : Synthesizer := { s with index := s.index.withMethods name methods }

lemma ofIndex_withMethods (settings : Settings) :
    (ofIndex index settings).withMethods name methods =
      ofIndex (index.withMethods name methods) settings := by
  simp only [withMethods, ofIndex, Index.contains_withMethods]

end Synthesizer

end SoapWrap
