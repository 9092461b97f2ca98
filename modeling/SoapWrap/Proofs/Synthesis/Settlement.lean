import SoapWrap.Proofs.Session.InterfaceNames
import SoapWrap.Proofs.Synthesis.Extraction

namespace SoapWrap

inductive Settled : (methods : List String) → List OperationOutput → (skipped : List String) → Prop
  | nil : Settled [] [] []
  | generated {methods skipped : List String} {outputs : List OperationOutput}
      {o : OperationOutput} : Settled methods outputs skipped →
      Settled (o.operation :: methods) (o :: outputs) skipped
  | skipped {methods skipped : List String} {outputs : List OperationOutput} {name : String} :
      Settled methods outputs skipped → Settled (name :: methods) outputs (name :: skipped)

lemma InterfaceOutput.typeDefs_length (o : InterfaceOutput) :
    o.typeDefs.length =
      o.packageInfo.toList.length + 6 * o.operations.length + o.faults.length := by
  have hops : (o.operations.flatMap (·.typeDefs)).length = 6 * o.operations.length := by
    induction o.operations with
    | nil => rfl
    | cons op rest ih =>
      rw [List.flatMap_cons, List.length_append, ih, List.length_cons]
      have hop : op.typeDefs.length = 6 := rfl
      omega
  simp only [typeDefs, List.length_append, List.length_map, hops]

lemma InterfaceOutput.marker_mem {o : InterfaceOutput} {info : PackageInfo}
    (h : o.packageInfo = some info) : info.typeDef ∈ o.typeDefs := by
  simp [typeDefs, h]

namespace Synthesizer

def packageOf (s : Synthesizer) (service : TypeInfo) : String :=
  s.settings.generatedPackage service.package

variable {s : Synthesizer} {scope : Scope} {op : Operation} {session session' : Session}

lemma contribute_ok {c : Contribution} (h : s.contribute scope session op = (.ok c, session')) :
    session'.packages = session.packages ∧ ∀ o, c.output = some o → o.operation = op.methodName := by
  refine ⟨(contribute_frame h).1, fun o ho => ?_⟩
  obtain ⟨names, names', hop⟩ := contribute_output h o ho
  exact (operationOutput_ok hop).1

lemma contributeAll_settled {ops : List Operation} {cs : List (String × Contribution)}
    (h : s.contributeAll scope session ops = (.ok cs, session')) :
    session'.packages = session.packages ∧
      Settled (ops.map (·.methodName)) (cs.filterMap (·.2.output))
        (cs.filterMap fun c => if c.2.output.isNone then some c.1 else none) := by
  induction ops generalizing session cs with
  | nil =>
    obtain ⟨rfl, rfl⟩ := contributeAll_nil_ok h
    exact ⟨rfl, .nil⟩
  | cons op rest ih =>
    obtain ⟨⟨faults, output⟩, between, cs', hc, hr, rfl⟩ := contributeAll_cons_ok h
    obtain ⟨hp, hn⟩ := contribute_ok hc
    obtain ⟨hps, hs⟩ := ih hr
    refine ⟨hps.trans hp, ?_⟩
    cases output with
    | none => exact hs.skipped
    | some o =>
      rw [List.map_cons, ← hn o rfl]
      exact hs.generated

lemma interfaceOutput_settled {info : TypeInfo} {o : InterfaceOutput} (hi : info ∈ s.index.types)
    (h : s.interfaceOutput session info.name = (.ok o, session')) :
    o.interface = info.name ∧ o.package = s.packageOf info ∧
      Settled (info.methods.map (·.name)) o.operations o.skipped := by
  obtain ⟨service, cs, hx, hn, hp, -, -, hc, ho, -, hk⟩ := interfaceOutput_ok h
  obtain ⟨-, -, -, hname, -⟩ := Index.extract_ok hx
  have hpackage : o.package = s.packageOf info := by
    rw [hp, ServiceInterface.package, hname]
    rfl
  have hs := (contributeAll_settled hc).2
  rw [Index.methodNames_of_extract hi hx, ← ho, ← hk] at hs
  exact ⟨hn, hpackage, hs⟩

lemma interfaceOutput_marks {name : String} {o : InterfaceOutput}
    (h : s.interfaceOutput session name = (.ok o, session')) :
    (o.package ∈ session.packages ∧ o.packageInfo = none ∧
        session'.packages = session.packages) ∨
      (o.package ∉ session.packages ∧
        o.packageInfo = some (.ofPackage o.package o.xmlNamespace) ∧
        session'.packages = o.package :: session.packages) := by
  obtain ⟨service, cs, -, -, -, -, hm, hc, -⟩ := interfaceOutput_ok h
  have hp := (contributeAll_settled hc).1
  by_cases hin : o.package ∈ session.packages
  · simp only [markPackage, hin, if_true] at hm hp
    exact .inl ⟨hin, hm, hp⟩
  · simp only [markPackage, hin, if_false] at hm hp
    exact .inr ⟨hin, hm, hp⟩

end Synthesizer

end SoapWrap
