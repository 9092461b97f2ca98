import SoapWrap.Proofs.Pass.Printing

/-! The printing of all interfaces against a pass over the same index: both synthesize one
interface after the other, and only the pass can end at a name that comes twice. -/

namespace SoapWrap.Command.Inspect

open Synthesizer

variable {s : Synthesizer} {session between : Session}

lemma outputs_cons_error {e : SynthesisError} {name : String} (names : List String)
    (h : s.interfaceOutput session name = (.error e, between)) :
    outputs s session (name :: names) = ([], some e) := by
  rw [outputs, h]

lemma outputs_cons_ok {o : InterfaceOutput} {name : String} (names : List String)
    (h : s.interfaceOutput session name = (.ok o, between)) :
    outputs s session (name :: names) =
      (o :: (outputs s between names).1, (outputs s between names).2) := by
  rw [outputs, h]

lemma outputs_append {earlier : List TypeInfo} {os : List InterfaceOutput}
    (h : s.outputs? session earlier = some (os, between)) (names : List String) :
    outputs s session (earlier.map (·.name) ++ names) =
      (os ++ (outputs s between names).1, (outputs s between names).2) := by
  induction earlier generalizing session os with
  | nil =>
    obtain ⟨rfl, rfl⟩ := Prod.mk.inj (Option.some.inj h)
    rfl
  | cons service rest ih =>
    obtain ⟨o, after, os', ho, hrest, rfl⟩ := outputs?_cons_ok h
    rw [List.map_cons, List.cons_append, outputs_cons_ok _ ho, ih hrest, List.cons_append]

lemma outputs_of_outputs? {services : List TypeInfo} {os : List InterfaceOutput}
    (h : s.outputs? session services = some (os, between)) :
    outputs s session (services.map (·.name)) = (os, none) := by
  have happend := outputs_append h []
  rw [List.append_nil] at happend
  rw [happend, outputs, List.append_nil]

lemma mem_outputs {names : List String} :
    ∀ o ∈ (outputs s session names).1, ∃ name before after,
      s.interfaceOutput before name = (.ok o, after) := by
  induction names generalizing session with
  | nil => exact List.forall_mem_nil _
  | cons name rest ih =>
    rw [outputs]
    split
    · exact List.forall_mem_nil _
    · next ho =>
      rw [List.forall_mem_cons]
      exact ⟨⟨name, session, _, ho⟩, ih⟩

lemma outputs_interface_prefix (names : List String) :
    (outputs s session names).1.map (·.interface) <+: names := by
  induction names generalizing session with
  | nil => exact List.prefix_rfl
  | cons name rest ih =>
    rw [outputs]
    split
    · exact List.nil_prefix
    · next o _ ho =>
      obtain ⟨-, -, -, hname, -⟩ := interfaceOutput_ok ho
      rw [List.map_cons, hname]
      exact (List.prefix_cons_inj name).mpr ih

def shown (index : Index) : List InterfaceOutput :=
  (outputs (.ofIndex index {}) {} (interfaces index none)).1

/-- A pass has handed on the types of the interfaces in front of one that is printed, and has failed
at that one, which brings a name for the second time. -/
def RepeatsAmong (os : List InterfaceOutput) (e : SynthesisError) (types : List TypeDef) : Prop :=
  ∃ earlier o later name, os = earlier ++ o :: later ∧ types = earlier.flatMap (·.typeDefs) ∧
    e = .emit (.synthesizedTwice name) ∧ name ∈ TypeDef.namesOf o.typeDefs ∧
    ¬ (TypeDef.namesOf (types ++ o.typeDefs)).Nodup

structure Foretells (os : List InterfaceOutput) (failure : Option Failure)
    (r : Except SynthesisError Report) (types : List TypeDef) : Prop where
  succeeds : ∀ report, r = .ok report → failure = none ∧ types = os.flatMap (·.typeDefs)
  fails : ∀ e, failure = some e →
    ∃ e', r = .error e' ∧ (e = .synthesis e' ∨ RepeatsAmong os e' types)

lemma foretells_of_handsOn {σ : Type} {types : σ → List TypeDef} {services : List TypeInfo}
    {r : Except SynthesisError Report} {p : Pass σ}
    (h : s.HandsOn types session [] services (failure? r) p) :
    Foretells (outputs s session (services.map (·.name))).1
      ((outputs s session (services.map (·.name))).2.map .synthesis) r (types p.sink) := by
  cases r with
  | ok report =>
    obtain ⟨os, hos, htypes, -⟩ := h
    rw [outputs_of_outputs? hos]
    exact ⟨fun _ _ => ⟨rfl, htypes⟩, fun _ he => nomatch he⟩
  | error e' =>
    obtain ⟨earlier, failing, later, os, after, rfl, hos, htypes, -, -, hfails⟩ := h
    rw [List.nil_append] at htypes
    rw [List.map_append, List.map_cons, outputs_append hos]
    refine ⟨fun _ hr => (nomatch hr), fun e he => ⟨e', rfl, ?_⟩⟩
    rcases hfails with ⟨herror, -⟩ | ⟨o, name, ho, he', hname, hrepeats⟩
    · rw [outputs_cons_error _ (Prod.ext herror rfl), Option.map_some] at he
      exact .inl (Option.some.inj he).symm
    · rw [outputs_cons_ok _ (Prod.ext ho rfl)]
      exact .inr ⟨os, o, _, name, rfl, htypes, he', hname, hrepeats⟩

lemma ofIndex_failure (index : Index) : (ofIndex index none).failure =
    (outputs (.ofIndex index {}) {} (interfaces index none)).2.map .synthesis := by
  rw [ofIndex]
  cases interfaces index none <;> rfl

lemma shown_fingerprint {index : Index} :
    ∀ o ∈ shown index, ∀ b ∈ o.bundles, b.wrapper.fingerprint = b.adapter.fingerprint := by
  intro o ho b hb
  obtain ⟨name, before, after, hout⟩ := mem_outputs o ho
  have hsuffix : (Synthesizer.ofIndex index {}).settings.packageSuffix ≠ "" := by
    simp [Synthesizer.ofIndex]
  obtain ⟨-, -, -, names, names', -, -, hadapter⟩ := interfaceOutput_makes hsuffix hout b hb
  rw [(Adapter.ofWrapper_ok hadapter).2.2]

lemma prints_shown (index : Index) (h : interfaces index none ≠ []) :
    ∃ parts : List (List String), (ofIndex index none).lines = parts.flatten ∧
      List.Forall₂ PrintsInterface (shown index) parts := by
  refine ⟨(shown index).map interfaceLines, ?_,
    forall₂_map_self fun o ho => prints_interfaceLines (shown_fingerprint o ho)⟩
  rw [ofIndex, shown, ← List.flatMap_def]
  split
  · contradiction
  · rfl

theorem ofIndex_foretells_runOn (index : Index) (session : Session) (registrar : Registrar)
    (externals : List String) :
    let s : Synthesizer := .ofIndex index {}
    let printed := ofIndex index none
    let intoManifest := s.runOn session Manifest.emit {} registrar
    let intoMachine := s.runOn session Machine.emit { externals } registrar
    Foretells (shown index) printed.failure intoManifest.1 intoManifest.2.sink.types ∧
      Foretells (shown index) printed.failure intoMachine.1 intoMachine.2.sink.types ∧
      (shown index).map (·.interface) <+: interfaces index none ∧
      (interfaces index none ≠ [] → ∃ parts : List (List String),
        printed.lines = parts.flatten ∧ List.Forall₂ PrintsInterface (shown index) parts) := by
  intro s printed intoManifest intoMachine
  have hfailure : printed.failure = _ := ofIndex_failure index
  rw [hfailure]
  refine ⟨?_, ?_, outputs_interface_prefix _, prints_shown index⟩
  · exact foretells_of_handsOn (runOn_handsOn Manifest.appends session rfl registrar)
  · exact foretells_of_handsOn (runOn_handsOn Machine.appends session rfl registrar)

end SoapWrap.Command.Inspect

namespace SoapWrap.Carafe

open Command.Inspect

/-- A method has the name of the adapter of another one, and the second interface throws what the
index does not have. -/
def index : Index where
  types := [
    { name := "org.acme.Carafe"
      kind := .interface
      tags := [.ofName TagName.webService]
      methods := [{ name := "pour" }, { name := "pour_Adapter1" }] },
    { name := "org.acme.Cruet"
      kind := .interface
      tags := [.ofName TagName.webService]
      methods := [{ name := "drip", throws := [.named "org.acme.Spill"] }] }]
  built := rfl

def synthesizer : Synthesizer := .ofIndex index {}

def unresolved : SynthesisError := .unresolvedType "drip" (.named "org.acme.Spill")

theorem carafe_is_printed_and_repeats :
    (ofIndex index none).failure = some (.synthesis unresolved) ∧
      (∃ parts : List (List String), (ofIndex index none).lines = parts.flatten ∧
        List.Forall₂ PrintsInterface (shown index) parts) ∧
      ∃ e, (synthesizer.runOn {} Manifest.emit {} {}).1 = .error e ∧
        RepeatsAmong (shown index) e (synthesizer.runOn {} Manifest.emit {} {}).2.sink.types := by
  have hprinted : (ofIndex index none).failure = some (.synthesis unresolved) := by decide +kernel
  have hother : Synthesizer.failure? (synthesizer.runOn {} Manifest.emit {} {}).1 ≠
      some unresolved := by
    decide +kernel
  obtain ⟨hforetells, -, -, hparts⟩ := ofIndex_foretells_runOn index {} {} []
  refine ⟨hprinted, hparts (by decide), ?_⟩
  obtain ⟨e, he, hsame | hrepeats⟩ := hforetells.fails _ hprinted
  · rw [Command.Failure.synthesis.inj hsame] at hother
    exact absurd (congrArg Synthesizer.failure? he) hother
  · exact ⟨e, he, hrepeats⟩

end SoapWrap.Carafe
