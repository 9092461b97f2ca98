import SoapWrap.Proofs.Machine.Faults
import SoapWrap.Proofs.Pass.Balance
import SoapWrap.Proofs.Synthesis.DeclaredFaults

namespace SoapWrap

def TypeDef.isFault (d : TypeDef) : Bool := d.supertype = some Intrinsic.exceptionType

lemma Bundle.filter_isFault (b : Bundle) : b.typeDefs.filter (·.isFault) = [] := rfl

lemma InterfaceOutput.filter_isFault (o : InterfaceOutput) :
    o.typeDefs.filter (·.isFault) = o.faults.map (·.typeDef) := by
  have hinfo : (o.packageInfo.toList.map (·.typeDef)).filter (·.isFault) = [] := by
    cases o.packageInfo with
    | none => rfl
    | some info => rfl
  have hoperations : (o.operations.flatMap (·.typeDefs)).filter (·.isFault) = [] := by
    induction o.operations with
    | nil => rfl
    | cons op rest ih => rw [List.flatMap_cons, List.filter_append, ih]; rfl
  have hfaults : (o.faults.map (·.typeDef)).filter (·.isFault) = o.faults.map (·.typeDef) :=
    List.filter_eq_self.mpr (List.forall_mem_map.mpr fun f _ => rfl)
  rw [typeDefs, List.filter_append, List.filter_append, hinfo, hoperations, hfaults]
  rfl

namespace Synthesizer

variable {s : Synthesizer} {session after : Session} {services : List TypeInfo}
variable {outputs : List InterfaceOutput}

lemma outputs?_claims (hi : ∀ service ∈ services, service ∈ s.index.types)
    (h : s.outputs? session services = some (outputs, after)) :
    (outputs.flatMap (·.faults), after.faults) =
      session.faults.claimAll (services.flatMap s.declaredFaults) := by
  induction services generalizing session outputs with
  | nil =>
    simp only [outputs?, Option.some.injEq, Prod.mk.injEq] at h
    rw [← h.1, ← h.2]
    rfl
  | cons service rest ih =>
    rw [List.forall_mem_cons] at hi
    obtain ⟨o, between, os, ho, hr, rfl⟩ := outputs?_cons_ok h
    rw [List.flatMap_cons, List.flatMap_cons, FaultRegistry.claimAll_append,
      ← interfaceOutput_claims hi.1 ho, ← ih hi.2 hr]

lemma filter_isFault_runOn {σ : Type} {emit : TypeDef → σ → Except EmitError σ}
    {types : σ → List TypeDef} (ha : Appends emit types) {sink : σ} (hs : types sink = [])
    {registrar : Registrar} {report : Report} {p : Pass σ}
    (hrun : s.runOn session emit sink registrar = (.ok report, p)) :
    (types p.sink).filter (·.isFault) =
      (Fault.firsts (s.interfaces.flatMap s.declaredFaults)).map (·.typeDef) := by
  have hon := runOn_handsOn (s := s) ha session hs registrar
  rw [hrun] at hon
  obtain ⟨outputs, hout, (htypes : types p.sink = [] ++ outputs.flatMap (·.typeDefs)), -⟩ := hon
  have hfaults : outputs.flatMap (·.faults) =
      Fault.firsts (s.interfaces.flatMap s.declaredFaults) := by
    rw [← FaultRegistry.claimAll_empty_fst]
    exact congrArg Prod.fst (outputs?_claims s.interfaces_subset hout)
  rw [htypes, List.nil_append, List.filter_flatMap, ← hfaults, List.map_flatMap]
  exact congrArg (outputs.flatMap ·) (funext InterfaceOutput.filter_isFault)

theorem runOn_emits_first_faults {σ : Type} {emit : TypeDef → σ → Except EmitError σ}
    {types : σ → List TypeDef} (ha : Appends emit types) {sink : σ} (hs : types sink = [])
    {registrar : Registrar} {report : Report} {p : Pass σ}
    (hrun : s.runOn session emit sink registrar = (.ok report, p)) :
    List.Forall₂ Fault.EmittedAs (Fault.firsts (s.interfaces.flatMap s.declaredFaults))
      ((types p.sink).filter (·.isFault)) := by
  rw [filter_isFault_runOn ha hs hrun, List.forall₂_map_right_iff]
  exact List.forall₂_same.mpr fun f _ => f.emittedAs_typeDef

end Synthesizer

namespace Mill

/-- An exception of an overload, and two exceptions in different packages that have one fault name:
the explicit name of the first is the derived name of the second. -/
def index : Index where
  types := [
    { name := "org.acme.Mill"
      kind := .interface
      tags := [.ofName TagName.webService]
      methods := [
        { name := "grind", throws := [.named "org.acme.Jam", .named "org.acme.Jam"] },
        { name := "grind", params := [{ declaredType := .named "int" }],
          throws := [.named "org.acme.Spill"] }] },
    { name := "com.shop.Till"
      kind := .interface
      tags := [.ofName TagName.webService]
      methods := [
        { name := "ring", throws := [.named "com.shop.Broken", .named "org.acme.Spill"] }] },
    { name := "org.acme.Jam"
      kind := .exception
      tags := [(Tag.ofName TagName.webFault).add "name" "Broken_Exception"]
      faultInfo := some (.named "string") },
    { name := "org.acme.Spill", kind := .exception },
    { name := "com.shop.Broken", kind := .exception, faultInfo := some (.named "int") }]
  built := rfl

def synthesizer : Synthesizer := .ofIndex index {}

def report : Report where
  interfaces := 2
  operations := 2
  wrappers := 4
  faults := 2
  typesEmitted := 16
  skippedOperations := ["org.acme.Mill.grind"]

lemma runOn_eq : synthesizer.runOn {} Manifest.emit {} {} =
    (.ok report, (synthesizer.runOn {} Manifest.emit {} {}).2) := by
  have hrun : (synthesizer.runOn {} Manifest.emit {} {}).1 = .ok report := by decide +kernel
  rw [← hrun]

theorem runOn_emits_first_faults_mill :
    List.Forall₂ Fault.EmittedAs [
      ⟨"org.acme.jaxws_asm.Broken_Exception", "Broken_Exception", .named "string",
        .named "org.acme.Jam"⟩,
      ⟨"org.acme.jaxws_asm.Spill_Exception", "Spill_Exception", .named "org.acme.Spill",
        .named "org.acme.Spill"⟩]
      ((synthesizer.runOn {} Manifest.emit {} {}).2.sink.types.filter (·.isFault)) := by
  have hfirsts : Fault.firsts (synthesizer.interfaces.flatMap synthesizer.declaredFaults) = [
      ⟨"org.acme.jaxws_asm.Broken_Exception", "Broken_Exception", .named "string",
        .named "org.acme.Jam"⟩,
      ⟨"org.acme.jaxws_asm.Spill_Exception", "Spill_Exception", .named "org.acme.Spill",
        .named "org.acme.Spill"⟩] := by
    decide +kernel
  exact hfirsts ▸ Synthesizer.runOn_emits_first_faults Manifest.appends rfl runOn_eq

end Mill

end SoapWrap
