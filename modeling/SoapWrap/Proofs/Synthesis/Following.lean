import SoapWrap.Proofs.Synthesis.Growth
import SoapWrap.Proofs.Synthesis.InterfaceSteps
import SoapWrap.Proofs.Synthesis.Settlement

/-! Two synthesizers, of which one does what the other does wherever that one succeeds, but for the
types that it doubts: of these the first in the fields of the wrappers ends the synthesis. -/

namespace SoapWrap

def Wrapper.fieldTypes (w : Wrapper) : List TypeExpr := w.fields.map (·.declaredType)

def OperationOutput.fieldTypes (o : OperationOutput) : List TypeExpr :=
  o.bundles.flatMap (·.wrapper.fieldTypes)

def InterfaceOutput.fieldTypes (o : InterfaceOutput) : List TypeExpr :=
  o.operations.flatMap (·.fieldTypes)

/-- An answer next to the one expected: the same if no type is doubted, else the failure that names
the first type that is. -/
inductive Echoes {ρ β : Type} (fail : SynthesisError → ρ) (doubted : TypeExpr → Bool)
    (types : List TypeExpr) (expected : ρ × β) : ρ × β → Prop
  | same : types.find? doubted = none → Echoes fail doubted types expected expected
  | refused {t : TypeExpr} {b : β} : types.find? doubted = some t →
      Echoes fail doubted types expected (fail (.unknownClassification t), b)

namespace Echoes

variable {ρ β : Type} {fail : SynthesisError → ρ} {doubted : TypeExpr → Bool}
variable {types : List TypeExpr} {expected answer : ρ × β}

lemma append (h : Echoes fail doubted types expected answer) {earlier : List TypeExpr}
    (he : earlier.find? doubted = none) :
    Echoes fail doubted (earlier ++ types) expected answer := by
  have hfind : (earlier ++ types).find? doubted = types.find? doubted := by
    rw [List.find?_append, he, Option.none_or]
  cases h with
  | same hn => exact .same (hfind.trans hn)
  | refused hs => exact .refused (hfind.trans hs)

lemma refused_append {t : TypeExpr} {b : β} (h : types.find? doubted = some t)
    (later : List TypeExpr) :
    Echoes fail doubted (types ++ later) expected (fail (.unknownClassification t), b) := by
  refine .refused ?_
  rw [List.find?_append, h, Option.some_or]

lemma eq_expected (h : Echoes fail doubted types expected answer)
    (hn : types.find? doubted = none) : answer = expected := by
  cases h with
  | same _ => rfl
  | refused hs => simp [hn] at hs

lemma eq_of_no_doubt (h : Echoes fail (fun _ => false) types expected answer) :
    answer = expected :=
  h.eq_expected (List.find?_eq_none.mpr fun _ _ => Bool.false_ne_true)

lemma eq_refusal (h : Echoes fail doubted types expected answer) {t : TypeExpr}
    (ht : types.find? doubted = some t) : answer.1 = fail (.unknownClassification t) := by
  cases h with
  | same hn => simp [hn] at ht
  | refused hs => rw [Option.some.inj (ht.symm.trans hs)]

end Echoes

lemma Fault.ofExceptions_strict (package : String) (settings : Settings) (strict : Bool)
    (faults : FaultRegistry) (thrown : List Thrown) :
    ofExceptions package { settings with strict } faults thrown =
      ofExceptions package settings faults thrown := by
  induction thrown generalizing faults with
  | nil => rfl
  | cons t rest ih => simp only [ofExceptions, ih]; rfl

lemma Scope.fieldTypes_resolve {scope : Scope} {op : Operation} {kind : WrapperKind} {w : Wrapper}
    (h : scope.wrapper op kind = .ok w) : ∀ t ∈ w.fieldTypes, scope.index.resolves t = true := by
  obtain ⟨hresolves, -, rfl⟩ := wrapper_ok h
  intro t ht
  rw [Wrapper.fieldTypes, List.map_map] at ht
  obtain ⟨e, he, rfl⟩ := List.mem_map.mp ht
  exact hresolves e he

namespace Synthesizer

structure Follows (other s : Synthesizer) (doubted : TypeExpr → Bool) : Prop where
  within : s.index.Within other.index
  settings : ∃ strict, other.settings = { s.settings with strict }
  shape : ∀ t shape, s.index.resolves t = true →
    FieldShape.ofType s.index s.settings.strict t = .ok shape →
    FieldShape.ofType other.index other.settings.strict t =
      if doubted t then .error (.unknownClassification t) else .ok shape
  companion : ∀ service ∈ s.index.webServices, service.kind = .interface →
    other.hasCompanion (s.settings.companionFor (s.packageOf service)) =
      s.hasCompanion (s.settings.companionFor (s.packageOf service))

def Contribution.fieldTypes (c : Contribution) : List TypeExpr :=
  c.output.toList.flatMap (·.fieldTypes)

lemma Contribution.fieldTypes_made (faults : List Fault) (o : OperationOutput) :
    Contribution.fieldTypes ⟨faults, some o⟩ = o.fieldTypes :=
  List.flatMap_singleton _ _

lemma Contribution.fieldTypes_outputs (cs : List (String × Contribution)) :
    (cs.filterMap fun (_, c) => c.output).flatMap (·.fieldTypes) =
      cs.flatMap (·.2.fieldTypes) := by
  induction cs with
  | nil => rfl
  | cons first rest ih =>
    obtain ⟨method, faults, output⟩ := first
    cases output with
    | none => exact ih
    | some o =>
      rw [List.flatMap_cons, Contribution.fieldTypes_made, ← ih]
      rfl

def scopeIn (s : Synthesizer) (package xmlNamespace : String) : Scope :=
  ⟨s.index, package, xmlNamespace, s.settings⟩

variable {other s : Synthesizer} {doubted : TypeExpr → Bool} {package xmlNamespace : String}
variable {op : Operation} {session session' : Session} {names names' : NameRegistry}

namespace Follows

variable (h : other.Follows s doubted)
include h

lemma generatedPackage (package : String) :
    other.settings.generatedPackage package = s.settings.generatedPackage package := by
  obtain ⟨strict, hs⟩ := h.settings
  rw [hs]
  rfl

lemma companionFor (package : String) :
    other.settings.companionFor package = s.settings.companionFor package := by
  obtain ⟨strict, hs⟩ := h.settings
  rw [hs]
  rfl

lemma adapterSuffix : other.settings.adapterSuffix = s.settings.adapterSuffix := by
  obtain ⟨strict, hs⟩ := h.settings
  rw [hs]

lemma factory (w : Wrapper) :
    Factory.ofWrapper other.settings w = Factory.ofWrapper s.settings w := by
  obtain ⟨strict, hs⟩ := h.settings
  rw [hs]
  rfl

lemma wrapperName (kind : WrapperKind) : (other.scopeIn package xmlNamespace).wrapperName op kind =
    (s.scopeIn package xmlNamespace).wrapperName op kind := by
  obtain ⟨strict, hs⟩ := h.settings
  simp only [Scope.wrapperName, scopeIn, hs]

lemma qualifiedWrapper (kind : WrapperKind) :
    qualifiedWrapper (other.scopeIn package xmlNamespace) op kind =
      qualifiedWrapper (s.scopeIn package xmlNamespace) op kind := by
  rw [Synthesizer.qualifiedWrapper, Synthesizer.qualifiedWrapper, h.wrapperName]
  rfl

lemma newFaults (package xmlNamespace : String) (session : Session) (op : Operation) :
    other.newFaults (other.scopeIn package xmlNamespace) session op =
      s.newFaults (s.scopeIn package xmlNamespace) session op := by
  obtain ⟨strict, hs⟩ := h.settings
  rw [Synthesizer.newFaults, Synthesizer.newFaults, hs, Fault.ofExceptions_strict]
  rfl

lemma wrapper {kind : WrapperKind} {w : Wrapper}
    (hw : (s.scopeIn package xmlNamespace).wrapper op kind = .ok w) :
    (other.scopeIn package xmlNamespace).wrapper op kind = .ok w := by
  obtain ⟨hresolves, hrepeated, rfl⟩ := Scope.wrapper_ok hw
  have hfind : (Scope.elements kind op).find?
      (fun e => !(other.scopeIn package xmlNamespace).index.resolves e.declaredType) = none := by
    rw [List.find?_eq_none]
    intro e he
    rw [Bool.not_eq_true, Bool.not_eq_false']
    exact h.within.resolves (hresolves e he)
  rw [Scope.wrapper]
  simp only [hfind, hrepeated, h.wrapperName]
  rfl

lemma shapes {w : Wrapper} {shapes : List FieldShape}
    (hw : ∀ t ∈ w.fieldTypes, s.index.resolves t = true)
    (hs : mapAll (fun f => FieldShape.ofType s.index s.settings.strict f.declaredType) w.fields =
      .ok shapes) :
    mapAll (fun f => FieldShape.ofType other.index other.settings.strict f.declaredType) w.fields =
      (w.fieldTypes.find? doubted).elim (.ok shapes)
        fun t => .error (.unknownClassification t) := by
  -- every type of a wrapper resolves, so nothing but doubt comes between the two
  have hg : ∀ f ∈ w.fields, ∀ shape,
      FieldShape.ofType s.index s.settings.strict f.declaredType = .ok shape →
      FieldShape.ofType other.index other.settings.strict f.declaredType =
        if doubted f.declaredType then .error (.unknownClassification f.declaredType)
        else .ok shape :=
    fun f hf shape => h.shape f.declaredType shape (hw _ (List.mem_map_of_mem hf))
  rw [mapAll_doubted (fun f => doubted f.declaredType)
    (fun f => .unknownClassification f.declaredType) hg hs, Wrapper.fieldTypes, List.find?_map,
    Function.comp_def]
  cases w.fields.find? fun f => doubted f.declaredType <;> rfl

lemma bundle {w : Wrapper} {b : Bundle} (hw : ∀ t ∈ w.fieldTypes, s.index.resolves t = true)
    (hc : other.hasCompanion (s.settings.companionFor w.package) =
      s.hasCompanion (s.settings.companionFor w.package))
    (hb : s.bundle names w = .ok (b, names')) :
    other.bundle names w = (w.fieldTypes.find? doubted).elim (.ok (b, names'))
      fun t => .error (.unknownClassification t) := by
  rw [Synthesizer.bundle, Adapter.ofWrapper] at hb ⊢
  cases hs : mapAll (fun f => FieldShape.ofType s.index s.settings.strict f.declaredType)
      w.fields with
  | error e =>
    rw [hs] at hb
    cases hb
  | ok shapes =>
    rw [hs] at hb
    rw [h.shapes hw hs]
    cases hfind : w.fieldTypes.find? doubted with
    | some t => rfl
    | none =>
      rw [← hb]
      simp only [h.companionFor, h.adapterSuffix, h.factory, hc, Option.elim_none]

section Package

variable (hc : other.hasCompanion (s.settings.companionFor package) =
  s.hasCompanion (s.settings.companionFor package))
include hc

lemma operationOutput {o : OperationOutput}
    (ho : s.operationOutput (s.scopeIn package xmlNamespace) names op = (.ok o, names')) :
    Echoes .error doubted o.fieldTypes (.ok o, names')
      (other.operationOutput (other.scopeIn package xmlNamespace) names op) := by
  obtain ⟨hname, hq, hr, between, hbq, hbr⟩ := operationOutput_ok ho
  have hqb := h.bundle (Scope.fieldTypes_resolve hq) (Scope.wrapper_package hq ▸ hc) hbq
  have hrb := h.bundle (Scope.fieldTypes_resolve hr) (Scope.wrapper_package hr ▸ hc) hbr
  have htypes : o.fieldTypes = o.request.wrapper.fieldTypes ++ o.response.wrapper.fieldTypes := by
    rw [OperationOutput.fieldTypes, OperationOutput.bundles, List.flatMap_cons,
      List.flatMap_singleton]
  rw [Synthesizer.operationOutput, h.wrapper hq, h.wrapper hr, htypes]
  dsimp only
  rw [hqb]
  cases hfq : o.request.wrapper.fieldTypes.find? doubted with
  | some t => exact .refused_append hfq _
  | none =>
    refine .append ?_ hfq
    dsimp only [Option.elim_none]
    rw [hrb]
    cases hfr : o.response.wrapper.fieldTypes.find? doubted with
    | some t => exact .refused hfr
    | none =>
      dsimp only [Option.elim_none]
      rw [← hname]
      exact .same hfr

lemma contribute {c : Contribution}
    (ho : s.contribute (s.scopeIn package xmlNamespace) session op = (.ok c, session')) :
    Echoes .error doubted c.fieldTypes (.ok c, session')
      (other.contribute (other.scopeIn package xmlNamespace) session op) := by
  have hfaults := h.newFaults package xmlNamespace session op
  rw [Synthesizer.newFaults, Synthesizer.newFaults] at hfaults
  rw [Synthesizer.contribute] at ho ⊢
  simp only [hfaults, h.qualifiedWrapper] at ho ⊢
  split at ho
  · next hover =>
    obtain ⟨hr, rfl⟩ := Prod.mk.inj ho
    obtain rfl := Except.ok.inj hr
    rw [if_pos hover]
    exact .same rfl
  · next hover =>
    rw [if_neg hover]
    split at ho
    · simp at ho
    · next hq =>
      split at ho
      · simp at ho
      · next after hr =>
        split at ho
        · simp at ho
        · next o names hout =>
          obtain ⟨hc', rfl⟩ := Prod.mk.inj ho
          obtain rfl := Except.ok.inj hc'
          have hecho := h.operationOutput hc hout
          rw [Contribution.fieldTypes_made]
          generalize other.operationOutput _ _ _ = answer at hecho ⊢
          cases hecho with
          | same hfind => exact .same hfind
          | refused hfind => exact .refused hfind

lemma contributeAll {ops : List Operation} {cs : List (String × Contribution)}
    (ho : s.contributeAll (s.scopeIn package xmlNamespace) session ops = (.ok cs, session')) :
    Echoes .error doubted (cs.flatMap (·.2.fieldTypes)) (.ok cs, session')
      (other.contributeAll (other.scopeIn package xmlNamespace) session ops) := by
  induction ops generalizing session cs with
  | nil =>
    obtain ⟨rfl, rfl⟩ := contributeAll_nil_ok ho
    exact .same rfl
  | cons op rest ih =>
    obtain ⟨c, between, cs, hcon, hrest, rfl⟩ := contributeAll_cons_ok ho
    have hfirst := h.contribute hc hcon
    have hlater := ih hrest
    rw [Synthesizer.contributeAll, List.flatMap_cons]
    generalize other.contribute _ _ _ = answer at hfirst ⊢
    cases hfirst with
    | refused hfind => exact .refused_append hfind _
    | same hfind =>
      dsimp only
      refine .append ?_ hfind
      generalize other.contributeAll _ _ _ = answers at hlater ⊢
      cases hlater with
      | same hfind => exact .same hfind
      | refused hfind => exact .refused hfind

end Package

lemma interfaceOutput {service : TypeInfo} {o : InterfaceOutput}
    (hs : service ∈ s.index.webServices) (hk : service.kind = .interface)
    (ho : s.interfaceOutput session service.name = (.ok o, session')) :
    Echoes .error doubted o.fieldTypes (.ok o, session')
      (other.interfaceOutput session service.name) := by
  have hc := h.companion service hs hk
  rw [← (interfaceOutput_settled (List.mem_of_mem_filter hs) ho).2.1] at hc
  rw [Synthesizer.interfaceOutput] at ho ⊢
  split at ho
  · simp at ho
  · next extracted hx =>
    rw [h.within.extract hx]
    dsimp only at ho ⊢
    rw [h.generatedPackage]
    split at ho
    · simp at ho
    · next cs after hcs =>
      obtain ⟨ho', rfl⟩ := Prod.mk.inj ho
      obtain rfl := Except.ok.inj ho'
      have hecho := h.contributeAll hc hcs
      rw [scopeIn] at hecho
      rw [InterfaceOutput.fieldTypes, Contribution.fieldTypes_outputs]
      generalize other.contributeAll _ _ _ = answer at hecho ⊢
      cases hecho with
      | same hfind => exact .same hfind
      | refused hfind => exact .refused hfind

end Follows

end Synthesizer

end SoapWrap
