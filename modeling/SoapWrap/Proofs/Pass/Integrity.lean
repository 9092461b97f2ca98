import SoapWrap.Proofs.Pass.Emission
import SoapWrap.Proofs.Synthesis.Grounding

namespace SoapWrap.Synthesizer

variable {index : Index} {settings : Settings} {session after : Session}

lemma outputs?_grounded {services : List TypeInfo} {outputs : List InterfaceOutput}
    (h : (ofIndex index settings).outputs? session services = some (outputs, after)) :
    ∀ d ∈ outputs.flatMap (·.typeDefs),
      Codebase.GroundsType ⟨index, settings, outputs.flatMap (·.typeDefs)⟩ d := by
  intro d hd
  obtain ⟨o, ho, hd⟩ := List.mem_flatMap.mp hd
  obtain ⟨name, before, between, hs⟩ := mem_outputs? h o ho
  exact interfaceOutput_grounded hs (fun e he => List.mem_flatMap.mpr ⟨o, ho, he⟩) d hd

theorem runOn_emits_grounded_types {σ : Type} {emit : TypeDef → σ → Except EmitError σ}
    {types : σ → List TypeDef} (ha : Appends emit types) {sink : σ} (hs : types sink = [])
    {registrar : Registrar} {report : Report} {p : Pass σ}
    (hrun : (ofIndex index settings).runOn session emit sink registrar = (.ok report, p)) :
    (TypeDef.namesOf (types p.sink)).Nodup ∧
      ∀ d ∈ types p.sink, Codebase.GroundsType ⟨index, settings, types p.sink⟩ d := by
  have hon := runOn_handsOn (s := ofIndex index settings) ha session hs registrar
  rw [hrun] at hon
  obtain ⟨outputs, hout, htypes, -, hnodup⟩ := hon
  refine ⟨hnodup, ?_⟩
  rw [htypes, List.nil_append]
  exact outputs?_grounded hout

theorem runOn_emits_grounded_types_larder :
    (Larder.synthesizer.runOn {} Manifest.emit {} {}).1 = .ok Larder.report ∧
      ∀ d ∈ (Larder.synthesizer.runOn {} Manifest.emit {} {}).2.sink.types,
        Codebase.GroundsType
          ⟨Larder.index, {}, (Larder.synthesizer.runOn {} Manifest.emit {} {}).2.sink.types⟩ d :=
  ⟨congrArg Prod.fst Larder.runOn_eq,
    (runOn_emits_grounded_types Manifest.appends rfl Larder.runOn_eq).2⟩

end SoapWrap.Synthesizer
