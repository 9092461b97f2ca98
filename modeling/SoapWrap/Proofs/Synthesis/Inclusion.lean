import Mathlib.Data.List.Forall2
import SoapWrap.Proofs.Synthesis.WrapperFields

/-! The rule by which the result and the parameters of an operation become the fields of a wrapper,
said without the steps of the synthesis, and that the synthesis follows it to the error. -/

namespace SoapWrap

inductive Included where
  | result (r : Result)
  | param (position : Nat) (p : Parameter)

namespace Included

def params (ps : List Parameter) : List Included := ps.zipIdx.map fun (p, i) => param i p

def declaredType : Included → TypeExpr
  | result r => r.declaredType
  | param _ p => p.declaredType

def wireName : Included → String
  | result r => r.wireName.getD "return"
  | param position p => (p.wireName <|> p.declaredName).getD ("arg" ++ toString position)

def xmlNamespace : Included → String
  | result r => r.targetNamespace.getD ""
  | param _ p => p.targetNamespace.getD ""

def tags : Included → List Tag
  | result r => r.tags
  | param _ p => p.tags

def carried (i : Included) : List Tag := i.tags.filter (·.name ∈ TagName.schemaTags)

def plainTag (i : Included) : Tag :=
  ((Tag.ofName "XmlElement").add "name" i.wireName).add "namespace" i.xmlNamespace

structure Gives (i : Included) (f : WrapperField) : Prop where
  wireName : f.wireName = i.wireName
  name : f.name = Naming.fieldIdentifier i.wireName
  getter : f.getter = Naming.getterIdentifier i.wireName
  setter : f.setter = Naming.setterIdentifier i.wireName
  xmlNamespace : f.xmlNamespace = i.xmlNamespace
  declaredType : f.declaredType = i.declaredType
  carried : i.carried ≠ [] → f.getterTags = i.carried
  plain : i.carried = [] → f.getterTags = [i.plainTag]

end Included

def Operation.included (op : Operation) : WrapperKind → List Included
  | .request => Included.params (op.params.filter (·.direction ≠ .out))
  | .response =>
    (if op.result.declaredType.isVoid then [] else [.result op.result]) ++
      Included.params (op.params.filter (·.direction ≠ .in))

def WrapperField.Apart (f g : WrapperField) : Prop := f.name ≠ g.name ∧ f.getter ≠ g.getter

open WrapperField

/-- How the synthesis of a wrapper ends. A type that does not resolve goes before a field that is
repeated, and of each of the two the first one is named. -/
inductive Scope.WrapperOutcome (s : Scope) (op : Operation) (kind : WrapperKind) :
    Except SynthesisError Wrapper → Prop
  | unresolved {before after : List Included} {i : Included} :
      op.included kind = before ++ i :: after →
      (∀ j ∈ before, s.index.resolves j.declaredType = true) →
      s.index.resolves i.declaredType = false →
      WrapperOutcome s op kind (.error (.unresolvedType op.methodName i.declaredType))
  | repeated {before after : List WrapperField} {f : WrapperField} :
      (∀ i ∈ op.included kind, s.index.resolves i.declaredType = true) →
      List.Forall₂ Included.Gives (op.included kind) (before ++ f :: after) →
      before.Pairwise Apart → (∃ g ∈ before, ¬ g.Apart f) →
      WrapperOutcome s op kind
        (.error (.malformedOperation op.methodName (.repeatedField (s.wrapperName op kind) f.name)))
  | made {fields : List WrapperField} :
      (∀ i ∈ op.included kind, s.index.resolves i.declaredType = true) →
      List.Forall₂ Included.Gives (op.included kind) fields → fields.Pairwise Apart →
      WrapperOutcome s op kind (.ok {
        name := s.wrapperName op kind, kind, fields
        package := s.package
        xmlNamespace := s.xmlNamespace
        elementName := Scope.elementName op kind })

namespace Included

def element : Included → Scope.Element
  | result r => Scope.resultElement r
  | param position p => Scope.paramElement position p

def field (i : Included) : WrapperField := Scope.field i.element

lemma element_wireName (i : Included) : i.element.wireName = i.wireName := by
  cases i with
  | result r => rfl
  | param position p =>
    obtain ⟨_, name, _, wireName⟩ := p
    cases wireName <;> cases name <;> rfl

lemma element_xmlNamespace (i : Included) : i.element.xmlNamespace = i.xmlNamespace := by
  cases i <;> rfl

lemma element_declaredType (i : Included) : i.element.declaredType = i.declaredType := by
  cases i <;> rfl

lemma element_tags (i : Included) : i.element.tags = i.tags := by
  cases i <;> rfl

lemma getterTags_element (i : Included) :
    Scope.getterTags i.element = if i.carried = [] then [i.plainTag] else i.carried := by
  have hcarried : (i.tags.filter fun t => TagName.schemaTags.contains t.name) = i.carried :=
    List.filter_congr fun t _ => by simp
  rw [Scope.getterTags, element_tags, element_wireName, element_xmlNamespace, hcarried]
  simp only [List.isEmpty_iff]
  rfl

lemma gives_iff {i : Included} {f : WrapperField} : i.Gives f ↔ i.field = f := by
  have hfield : i.field = {
      name := Naming.fieldIdentifier i.wireName
      wireName := i.wireName
      xmlNamespace := i.xmlNamespace
      declaredType := i.declaredType
      getter := Naming.getterIdentifier i.wireName
      setter := Naming.setterIdentifier i.wireName
      getterTags := if i.carried = [] then [i.plainTag] else i.carried } := by
    rw [field, Scope.field, element_wireName, element_xmlNamespace, element_declaredType,
      getterTags_element]
  rw [hfield]
  constructor
  · intro h
    obtain ⟨name, wireName, xmlNamespace, declaredType, getter, setter, getterTags⟩ := f
    obtain ⟨rfl, rfl, rfl, rfl, rfl, rfl, hcarried, hplain⟩ := h
    split
    · next hc => rw [← hplain hc]
    · next hc => rw [← hcarried hc]
  · rintro rfl
    exact ⟨rfl, rfl, rfl, rfl, rfl, rfl, fun hc => if_neg hc, fun hc => if_pos hc⟩

lemma forall₂_gives_iff {is : List Included} {fs : List WrapperField} :
    List.Forall₂ Gives is fs ↔ is.map field = fs := by
  rw [← List.forall₂_eq_eq_eq, List.forall₂_map_left_iff]
  exact ⟨fun h => h.imp fun _ _ => gives_iff.mp, fun h => h.imp fun _ _ => gives_iff.mpr⟩

lemma map_element_params (ps : List Parameter) (position : Nat) :
    (ps.zipIdx position).map (fun (p, i) => (param i p).element) =
      Scope.paramElements position ps := by
  induction ps generalizing position with
  | nil => rfl
  | cons p rest ih =>
    rw [List.zipIdx_cons, List.map_cons, ih]
    rfl

end Included

lemma Operation.elements_eq (op : Operation) (kind : WrapperKind) :
    Scope.elements kind op = (op.included kind).map (·.element) := by
  have hparams (ps : List Parameter) :
      (Included.params ps).map (·.element) = Scope.paramElements 0 ps := by
    rw [Included.params, List.map_map, ← Included.map_element_params]
    rfl
  cases kind with
  | request =>
    rw [included, hparams]
    rfl
  | response =>
    rw [included, List.map_append, hparams, Scope.elements, Result.isVoid]
    split <;> rfl

namespace WrapperField

variable {a f : WrapperField} {fs rest seen : List WrapperField}

def firstRepeated? (seen fs : List WrapperField) : Option WrapperField :=
  Scope.repeatedField? (seen.map (·.name)) (seen.map (·.getter)) fs

lemma exists_not_apart_iff : (∃ g ∈ seen, ¬ g.Apart a) ↔
    a.name ∈ seen.map (·.name) ∨ a.getter ∈ seen.map (·.getter) := by
  simp only [List.mem_map, Apart, not_and_or, not_not, and_or_left, exists_or]

lemma firstRepeated?_of_apart (h : ∀ g ∈ seen, g.Apart a) :
    firstRepeated? seen (a :: rest) = firstRepeated? (a :: seen) rest := by
  have hnew : ¬ ∃ g ∈ seen, ¬ g.Apart a := by simpa using h
  rw [exists_not_apart_iff] at hnew
  exact if_neg hnew

lemma firstRepeated?_of_not_apart (h : ∃ g ∈ seen, ¬ g.Apart a) :
    firstRepeated? seen (a :: rest) = some a :=
  if_pos (exists_not_apart_iff.mp h)

lemma firstRepeated?_eq_none_iff : firstRepeated? seen fs = none ↔
    fs.Pairwise Apart ∧ ∀ f ∈ fs, ∀ g ∈ seen, g.Apart f := by
  induction fs generalizing seen with
  | nil => simp [firstRepeated?, Scope.repeatedField?]
  | cons a rest ih =>
    by_cases ha : ∀ g ∈ seen, g.Apart a
    · rw [firstRepeated?_of_apart ha, ih]
      simp only [List.pairwise_cons, List.forall_mem_cons, forall_and]
      tauto
    · rw [firstRepeated?_of_not_apart (by simpa using ha)]
      exact iff_of_false (Option.some_ne_none a) fun h => ha (h.2 a List.mem_cons_self)

lemma firstRepeated?_eq_some_iff : firstRepeated? seen fs = some f ↔
    ∃ before after, fs = before ++ f :: after ∧ firstRepeated? seen before = none ∧
      ∃ g ∈ seen ++ before, ¬ g.Apart f := by
  induction fs generalizing seen with
  | nil => simp [firstRepeated?, Scope.repeatedField?]
  | cons a rest ih =>
    by_cases ha : ∀ g ∈ seen, g.Apart a
    · rw [firstRepeated?_of_apart ha, ih]
      constructor
      · rintro ⟨before, after, rfl, hnone, g, hg, hgf⟩
        exact ⟨a :: before, after, rfl, (firstRepeated?_of_apart ha).trans hnone, g,
          List.perm_middle.symm.mem_iff.mp hg, hgf⟩
      · rintro ⟨before, after, hfs, hnone, g, hg, hgf⟩
        cases before with
        | nil =>
          obtain ⟨rfl, -⟩ := List.cons.inj hfs
          rw [List.append_nil] at hg
          exact absurd (ha g hg) hgf
        | cons b before =>
          obtain ⟨rfl, rfl⟩ := List.cons.inj hfs
          exact ⟨before, after, rfl, (firstRepeated?_of_apart ha).symm.trans hnone, g,
            List.perm_middle.mem_iff.mp hg, hgf⟩
    · have hseen : ∃ g ∈ seen, ¬ g.Apart a := by simpa using ha
      rw [firstRepeated?_of_not_apart hseen, Option.some.injEq]
      constructor
      · rintro rfl
        refine ⟨[], rest, rfl, rfl, ?_⟩
        rwa [List.append_nil]
      · rintro ⟨before, after, hfs, hnone, -⟩
        cases before with
        | nil => exact (List.cons.inj hfs).1
        | cons b before =>
          obtain ⟨rfl, -⟩ := List.cons.inj hfs
          rw [firstRepeated?_of_not_apart hseen] at hnone
          cases hnone

end WrapperField

namespace Scope

variable {s : Scope} {op : Operation} {kind : WrapperKind}

lemma wrapper_eq : s.wrapper op kind =
    match (op.included kind).find? fun i => !s.index.resolves i.declaredType with
    | some i => .error (.unresolvedType op.methodName i.declaredType)
    | none =>
      match firstRepeated? [] ((op.included kind).map (·.field)) with
      | some f =>
        .error (.malformedOperation op.methodName (.repeatedField (s.wrapperName op kind) f.name))
      | none => .ok {
          name := s.wrapperName op kind, kind
          fields := (op.included kind).map (·.field)
          package := s.package
          xmlNamespace := s.xmlNamespace
          elementName := elementName op kind } := by
  have hfields : (elements kind op).map field = (op.included kind).map (·.field) := by
    rw [op.elements_eq, List.map_map]
    rfl
  have hfind : ((elements kind op).find? fun e => !s.index.resolves e.declaredType) =
      ((op.included kind).find? fun i => !s.index.resolves i.declaredType).map (·.element) := by
    rw [op.elements_eq, List.find?_map]
    simp only [Function.comp_def, Included.element_declaredType]
  rw [wrapper]
  dsimp only
  rw [hfields, hfind]
  cases (op.included kind).find? fun i => !s.index.resolves i.declaredType with
  | some i => cases i <;> rfl
  | none => rfl

theorem wrapper_eq_iff_outcome (s : Scope) (op : Operation) (kind : WrapperKind)
    (r : Except SynthesisError Wrapper) : s.wrapper op kind = r ↔ s.WrapperOutcome op kind r := by
  rw [wrapper_eq]
  constructor
  · rintro rfl
    split
    · next i hi =>
      obtain ⟨hi, before, after, hsplit, hbefore⟩ := List.find?_eq_some_iff_append.mp hi
      exact .unresolved hsplit (by simpa using hbefore) (by simpa using hi)
    · next hnone =>
      have hresolve : ∀ i ∈ op.included kind, s.index.resolves i.declaredType = true := by
        simpa using hnone
      split
      · next f hf =>
        obtain ⟨before, after, hsplit, hbefore, hrepeats⟩ := firstRepeated?_eq_some_iff.mp hf
        exact .repeated hresolve (Included.forall₂_gives_iff.mpr hsplit)
          (firstRepeated?_eq_none_iff.mp hbefore).1 hrepeats
      · next hf =>
        exact .made hresolve (Included.forall₂_gives_iff.mpr rfl)
          (firstRepeated?_eq_none_iff.mp hf).1
  · intro h
    have hfind (hresolve : ∀ i ∈ op.included kind, s.index.resolves i.declaredType = true) :
        ((op.included kind).find? fun i => !s.index.resolves i.declaredType) = none := by
      simpa using hresolve
    have hfree {fs : List WrapperField} (hpair : fs.Pairwise Apart) :
        firstRepeated? [] fs = none :=
      firstRepeated?_eq_none_iff.mpr ⟨hpair, fun _ _ _ hg => absurd hg List.not_mem_nil⟩
    cases h with
    | @unresolved before after i hsplit hbefore hi =>
      have hfirst : ((op.included kind).find? fun j => !s.index.resolves j.declaredType) = some i :=
        List.find?_eq_some_iff_append.mpr
          ⟨by simpa using hi, before, after, hsplit, by simpa using hbefore⟩
      rw [hfirst]
    | repeated hresolve hgives hbefore hrepeats =>
      rw [hfind hresolve, Included.forall₂_gives_iff.mp hgives,
        firstRepeated?_eq_some_iff.mpr ⟨_, _, rfl, hfree hbefore, hrepeats⟩]
    | made hresolve hgives hpair =>
      rw [hfind hresolve, Included.forall₂_gives_iff.mp hgives, hfree hpair]

/-- The parameter that has no name is the second of the request, where a name is given that it would
have; in the response it is the first. -/
example :
    let s : Scope := { index := .empty, package := "", xmlNamespace := "", settings := {} }
    let op : Operation := {
      methodName := "mix"
      params := [
        { declaredType := .named "int", wireName := some "arg1" },
        { declaredType := .named "int", direction := .inOut }]
      result := { declaredType := .void } }
    s.wrapper op .request =
        .error (.malformedOperation "mix" (.repeatedField "Mix" "arg1")) ∧
      (s.wrapper op .response).toOption.map (·.fields.map (·.wireName)) = some ["arg0"] := by
  decide +kernel

end Scope

end SoapWrap
