import Mathlib.Tactic.Lemma
import SoapWrap.Proofs.Synthesis.AdapterSteps
import SoapWrap.Proofs.Synthesis.WrapperFields
import SoapWrap.Synthesis.Interface

namespace SoapWrap

def OperationOutput.bundles (o : OperationOutput) : List Bundle := [o.request, o.response]

def InterfaceOutput.bundles (o : InterfaceOutput) : List Bundle := o.operations.flatMap (·.bundles)

lemma Settings.generatedPackage_ne_empty {settings : Settings} (h : settings.packageSuffix ≠ "")
    (package : String) : settings.generatedPackage package ≠ "" := by
  rw [generatedPackage, Text.qualify]
  rw [if_neg h]
  split
  · exact h
  · simp

namespace Synthesizer

variable {s : Synthesizer} {scope : Scope} {op : Operation} {session session' : Session}
variable {names names' : NameRegistry}

lemma bundle_ok {w : Wrapper} {b : Bundle} (h : s.bundle names w = .ok (b, names')) :
    b.wrapper = w ∧ b.factory = Factory.ofWrapper s.settings w ∧
      Adapter.ofWrapper s.index s.hasCompanion s.settings names w = .ok (b.adapter, names') := by
  rw [bundle] at h
  split at h
  · simp at h
  · next a n ha =>
    simp only [Except.ok.injEq, Prod.mk.injEq] at h
    obtain ⟨rfl, rfl⟩ := h
    exact ⟨rfl, rfl, ha⟩

lemma operationOutput_ok {o : OperationOutput}
    (h : s.operationOutput scope names op = (.ok o, names')) :
    o.operation = op.methodName ∧
      scope.wrapper op .request = .ok o.request.wrapper ∧
      scope.wrapper op .response = .ok o.response.wrapper ∧
      ∃ between, s.bundle names o.request.wrapper = .ok (o.request, between) ∧
        s.bundle between o.response.wrapper = .ok (o.response, names') := by
  rw [operationOutput] at h
  split at h
  · simp at h
  · simp at h
  · next request response hq hr =>
    split at h
    · simp at h
    · next bq between hbq =>
      split at h
      · simp at h
      · next br after hbr =>
        simp only [Prod.mk.injEq, Except.ok.injEq] at h
        obtain ⟨rfl, rfl⟩ := h
        have hwq := (bundle_ok hbq).1
        have hwr := (bundle_ok hbr).1
        exact ⟨rfl, by rw [hwq, hq], by rw [hwr, hr], between, by rw [hwq, hbq], by rw [hwr, hbr]⟩

lemma operationOutput_wrapperNames {o : OperationOutput} (hp : scope.package ≠ "")
    (h : s.operationOutput scope names op = (.ok o, names')) :
    o.bundles.map (·.wrapper.qualifiedName) =
      [qualifiedWrapper scope op .request, qualifiedWrapper scope op .response] := by
  obtain ⟨-, hq, hr, -⟩ := operationOutput_ok h
  simp only [OperationOutput.bundles, List.map_cons, List.map_nil,
    Scope.wrapper_qualifiedName hq hp, Scope.wrapper_qualifiedName hr hp, qualifiedWrapper]

def Makes (s : Synthesizer) (b : Bundle) : Prop :=
  ∃ (scope : Scope) (op : Operation) (kind : WrapperKind) (names names' : NameRegistry),
    scope.package ≠ "" ∧ scope.wrapper op kind = .ok b.wrapper ∧
      Adapter.ofWrapper s.index s.hasCompanion s.settings names b.wrapper = .ok (b.adapter, names')

lemma operationOutput_bundle {o : OperationOutput}
    (h : s.operationOutput scope names op = (.ok o, names')) :
    ∀ b ∈ o.bundles, ∃ kind before after, scope.wrapper op kind = .ok b.wrapper ∧
      s.bundle before b.wrapper = .ok (b, after) := by
  obtain ⟨-, hq, hr, between, hbq, hbr⟩ := operationOutput_ok h
  intro b hb
  rcases List.mem_pair.mp hb with rfl | rfl
  · exact ⟨.request, names, between, hq, hbq⟩
  · exact ⟨.response, between, names', hr, hbr⟩

lemma operationOutput_makes {o : OperationOutput} (hp : scope.package ≠ "")
    (h : s.operationOutput scope names op = (.ok o, names')) : ∀ b ∈ o.bundles, s.Makes b := by
  intro b hb
  obtain ⟨kind, before, after, hw, hbundle⟩ := operationOutput_bundle h b hb
  exact ⟨scope, op, kind, before, after, hp, hw, (bundle_ok hbundle).2.2⟩

def newFaults (s : Synthesizer) (scope : Scope) (session : Session) (op : Operation) :
    List Fault × FaultRegistry :=
  Fault.ofExceptions scope.package s.settings session.faults op.exceptions

def withFaults (s : Synthesizer) (scope : Scope) (session : Session) (op : Operation) : Session :=
  { session with faults := (s.newFaults scope session op).2 }

inductive Contributes (s : Synthesizer) (scope : Scope) (session : Session) (op : Operation) :
    Except SynthesisError Contribution → Session → Prop
  | skipped : isOverload session (qualifiedWrapper scope op .request) = true →
      Contributes s scope session op (.ok ⟨(s.newFaults scope session op).1, none⟩)
        (s.withFaults scope session op)
  | requestTaken {e : SynthesisError} :
      (s.withFaults scope session op).claimWrapper (qualifiedWrapper scope op .request)
        op.methodName .request = .error e →
      Contributes s scope session op (.error e) (s.withFaults scope session op)
  | responseTaken {e : SynthesisError} {between : Session} :
      (s.withFaults scope session op).claimWrapper (qualifiedWrapper scope op .request)
        op.methodName .request = .ok between →
      between.claimWrapper (qualifiedWrapper scope op .response) op.methodName .response =
        .error e →
      Contributes s scope session op (.error e) between
  | failed {e : SynthesisError} {between after : Session} {names : NameRegistry} :
      (s.withFaults scope session op).claimWrapper (qualifiedWrapper scope op .request)
        op.methodName .request = .ok between →
      between.claimWrapper (qualifiedWrapper scope op .response) op.methodName .response =
        .ok after →
      s.operationOutput scope after.names op = (.error e, names) →
      Contributes s scope session op (.error e) { after with names }
  | made {o : OperationOutput} {between after : Session} {names : NameRegistry} :
      (s.withFaults scope session op).claimWrapper (qualifiedWrapper scope op .request)
        op.methodName .request = .ok between →
      between.claimWrapper (qualifiedWrapper scope op .response) op.methodName .response =
        .ok after →
      s.operationOutput scope after.names op = (.ok o, names) →
      Contributes s scope session op (.ok ⟨(s.newFaults scope session op).1, some o⟩)
        { after with names }

lemma contributes {r : Except SynthesisError Contribution}
    (h : s.contribute scope session op = (r, session')) :
    s.Contributes scope session op r session' := by
  simp only [contribute] at h
  split at h
  · next hover =>
    obtain ⟨rfl, rfl⟩ := Prod.mk.inj h
    exact .skipped hover
  · split at h
    · next hq =>
      obtain ⟨rfl, rfl⟩ := Prod.mk.inj h
      exact .requestTaken hq
    · next hq =>
      split at h
      · next hr =>
        obtain ⟨rfl, rfl⟩ := Prod.mk.inj h
        exact .responseTaken hq hr
      · next hr =>
        split at h
        · next ho =>
          obtain ⟨rfl, rfl⟩ := Prod.mk.inj h
          exact .failed hq hr ho
        · next ho =>
          obtain ⟨rfl, rfl⟩ := Prod.mk.inj h
          exact .made hq hr ho

lemma contribute_output {c : Contribution} (h : s.contribute scope session op = (.ok c, session')) :
    ∀ o, c.output = some o → ∃ names names', s.operationOutput scope names op = (.ok o, names') := by
  intro o hc
  cases contributes h with
  | skipped => cases hc
  | made _ _ ho =>
    obtain rfl := Option.some.inj hc
    exact ⟨_, _, ho⟩

lemma contributeAll_nil_ok {cs : List (String × Contribution)}
    (h : s.contributeAll scope session [] = (.ok cs, session')) : cs = [] ∧ session' = session := by
  rw [contributeAll, Prod.mk.injEq, Except.ok.injEq] at h
  exact ⟨h.1.symm, h.2.symm⟩

lemma contributeAll_cons_ok {ops : List Operation} {cs : List (String × Contribution)}
    (h : s.contributeAll scope session (op :: ops) = (.ok cs, session')) :
    ∃ c between rest, s.contribute scope session op = (.ok c, between) ∧
      s.contributeAll scope between ops = (.ok rest, session') ∧
      cs = (op.methodName, c) :: rest := by
  rw [contributeAll] at h
  split at h
  · simp at h
  · next c between ho =>
    split at h
    · simp at h
    · next rest after hr =>
      obtain ⟨hc, rfl⟩ := Prod.mk.inj h
      exact ⟨c, between, rest, ho, hr, (Except.ok.inj hc).symm⟩

lemma contributeAll_output {ops : List Operation} {cs : List (String × Contribution)}
    (h : s.contributeAll scope session ops = (.ok cs, session')) :
    ∀ c ∈ cs, ∀ o, c.2.output = some o →
      ∃ op ∈ ops, ∃ names names', s.operationOutput scope names op = (.ok o, names') := by
  induction ops generalizing session cs with
  | nil =>
    obtain ⟨rfl, -⟩ := contributeAll_nil_ok h
    simp
  | cons op rest ih =>
    obtain ⟨c, between, cs', ho, hr, rfl⟩ := contributeAll_cons_ok h
    intro d hd o hdo
    rcases List.mem_cons.mp hd with rfl | hd
    · exact ⟨op, List.mem_cons_self, contribute_output ho o hdo⟩
    · obtain ⟨op', hop, hout⟩ := ih hr d hd o hdo
      exact ⟨op', List.mem_cons_of_mem op hop, hout⟩

lemma interfaceOutput_ok {name : String} {o : InterfaceOutput}
    (h : s.interfaceOutput session name = (.ok o, session')) :
    ∃ service cs, s.index.extract name = .ok service ∧
      o.interface = name ∧
      o.package = s.settings.generatedPackage service.package ∧
      o.xmlNamespace = service.effectiveNamespace ∧
      o.packageInfo = (markPackage session o.package o.xmlNamespace).1 ∧
      s.contributeAll ⟨s.index, o.package, o.xmlNamespace, s.settings⟩
        (markPackage session o.package o.xmlNamespace).2 service.operations =
          (.ok cs, session') ∧
      o.operations = cs.filterMap (·.2.output) ∧
      o.faults = cs.flatMap (·.2.faults) ∧
      o.skipped = cs.filterMap fun c => if c.2.output.isNone then some c.1 else none := by
  rw [interfaceOutput] at h
  split at h
  · simp at h
  · next service hx =>
    dsimp only at h
    split at h
    · simp at h
    · next cs after hc =>
      simp only [Prod.mk.injEq, Except.ok.injEq] at h
      obtain ⟨rfl, rfl⟩ := h
      exact ⟨service, cs, hx, rfl, rfl, rfl, rfl, hc, rfl, rfl, rfl⟩

lemma interfaceOutput_operation {name : String} {o : InterfaceOutput}
    (h : s.interfaceOutput session name = (.ok o, session')) :
    ∀ output ∈ o.operations, ∃ op names names',
      s.operationOutput ⟨s.index, o.package, o.xmlNamespace, s.settings⟩ names op =
        (.ok output, names') := by
  obtain ⟨service, cs, -, -, -, -, -, hc, ho, -⟩ := interfaceOutput_ok h
  intro output hout
  rw [ho] at hout
  obtain ⟨c, hcs, hc'⟩ := List.mem_filterMap.mp hout
  obtain ⟨op, -, names, names', hop⟩ := contributeAll_output hc c hcs output hc'
  exact ⟨op, names, names', hop⟩

lemma interfaceOutput_package_ne_empty {name : String} {o : InterfaceOutput}
    (hp : s.settings.packageSuffix ≠ "")
    (h : s.interfaceOutput session name = (.ok o, session')) : o.package ≠ "" := by
  obtain ⟨service, cs, -, -, hg, -⟩ := interfaceOutput_ok h
  exact hg ▸ Settings.generatedPackage_ne_empty hp _

lemma interfaceOutput_makes {name : String} {o : InterfaceOutput}
    (hp : s.settings.packageSuffix ≠ "")
    (h : s.interfaceOutput session name = (.ok o, session')) : ∀ b ∈ o.bundles, s.Makes b := by
  intro b hb
  obtain ⟨output, hout, hb⟩ := List.mem_flatMap.mp hb
  obtain ⟨op, names, names', hop⟩ := interfaceOutput_operation h output hout
  exact operationOutput_makes (interfaceOutput_package_ne_empty hp h) hop b hb

end Synthesizer

lemma InterfaceOutput.typeDefs_eq (o : InterfaceOutput) :
    o.typeDefs = o.packageInfo.toList.map (·.typeDef) ++ o.bundles.flatMap (·.typeDefs) ++
      o.faults.map (·.typeDef) := by
  rw [typeDefs]
  simp [bundles, OperationOutput.bundles, OperationOutput.typeDefs, List.flatMap_assoc]

lemma InterfaceOutput.mem_typeDefs_iff {o : InterfaceOutput} {d : TypeDef} :
    d ∈ o.typeDefs ↔ (∃ p ∈ o.packageInfo, p.typeDef = d) ∨ (∃ b ∈ o.bundles, d ∈ b.typeDefs) ∨
      ∃ f ∈ o.faults, f.typeDef = d := by
  rw [typeDefs_eq, List.mem_append, List.mem_append, List.mem_map, List.mem_flatMap, List.mem_map,
    or_assoc]
  simp only [Option.mem_toList, Option.mem_def]

lemma InterfaceOutput.mem_typeDefs {o : InterfaceOutput} {b : Bundle} (hb : b ∈ o.bundles)
    {d : TypeDef} (hd : d ∈ b.typeDefs) : d ∈ o.typeDefs :=
  mem_typeDefs_iff.mpr (.inr (.inl ⟨b, hb, hd⟩))

namespace Pantry

def index : Index where
  types := [{
    name := "org.acme.Pantry"
    kind := .interface
    tags := [.ofName TagName.webService]
    methods := [{
      name := "fill"
      params := [
        { declaredType := .listOf (.named "string"), name := some "items" },
        { declaredType := ⟨TypeExpr.holderBase, [.named "string"]⟩, name := some "label" },
        { declaredType := .named "int", name := some "count" }] }] }]
  built := rfl

def synthesizer : Synthesizer := .ofIndex index {}

end Pantry

end SoapWrap
