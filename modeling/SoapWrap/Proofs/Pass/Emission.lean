import SoapWrap.Machine.Basic
import SoapWrap.Proofs.Synthesis.Failures
import SoapWrap.Synthesis.Manifest
import SoapWrap.Synthesis.Pass

/-! A pass hands on whole interfaces: an emitter that was empty holds the types of the interfaces
before the failing one, or of all of them, under distinct names, and has refused none. -/

namespace SoapWrap

def TypeDef.namesOf (ds : List TypeDef) : List String := ds.map (·.name)

def Bundle.typeNames (b : Bundle) : List String :=
  [b.wrapper.qualifiedName, b.adapter.name, b.factory.name]

def InterfaceOutput.typeNames (o : InterfaceOutput) : List String :=
  o.packageInfo.toList.map (·.name) ++ o.bundles.flatMap (·.typeNames) ++ o.faults.map (·.name)

lemma InterfaceOutput.namesOf_typeDefs (o : InterfaceOutput) :
    TypeDef.namesOf o.typeDefs = o.typeNames := by
  rw [typeDefs_eq, TypeDef.namesOf, List.map_append, List.map_append, List.map_map, List.map_map,
    List.map_flatMap]
  rfl

namespace Synthesizer

def interfaces (s : Synthesizer) : List TypeInfo :=
  s.index.webServices.filter (·.kind = .interface)

def outputs? (s : Synthesizer) (session : Session) :
    List TypeInfo → Option (List InterfaceOutput × Session)
  | [] => some ([], session)
  | service :: rest =>
    match s.interfaceOutput session service.name with
    | (.error _, _) => none
    | (.ok o, session) => (s.outputs? session rest).map fun (os, session) => (o :: os, session)

section Outputs

variable {s : Synthesizer} {session after : Session}

lemma outputs?_cons_ok {service : TypeInfo} {services : List TypeInfo}
    {outputs : List InterfaceOutput}
    (h : s.outputs? session (service :: services) = some (outputs, after)) :
    ∃ o between rest, s.interfaceOutput session service.name = (.ok o, between) ∧
      s.outputs? between services = some (rest, after) ∧ outputs = o :: rest := by
  rw [outputs?] at h
  split at h
  · simp at h
  · next o between ho =>
    simp only [Option.map_eq_some_iff, Prod.exists, Prod.mk.injEq] at h
    obtain ⟨rest, last, hr, rfl, rfl⟩ := h
    exact ⟨o, between, rest, ho, hr, rfl⟩

lemma mem_outputs? {services : List TypeInfo} {outputs : List InterfaceOutput}
    (h : s.outputs? session services = some (outputs, after)) :
    ∀ o ∈ outputs, ∃ name before between, s.interfaceOutput before name = (.ok o, between) := by
  induction services generalizing session outputs with
  | nil =>
    simp only [outputs?, Option.some.injEq, Prod.mk.injEq] at h
    rw [← h.1]
    simp
  | cons service rest ih =>
    obtain ⟨o, between, os, ho, hr, rfl⟩ := outputs?_cons_ok h
    intro o' ho'
    rcases List.mem_cons.mp ho' with rfl | ho'
    · exact ⟨service.name, session, between, ho⟩
    · exact ih hr o' ho'

end Outputs

def FailsAt (s : Synthesizer) (session : Session) (emitted : List TypeDef) (service : TypeInfo)
    (e : SynthesisError) : Prop :=
  ((s.interfaceOutput session service.name).1 = .error e ∧ e.ofEmission = false) ∨
    ∃ o name, (s.interfaceOutput session service.name).1 = .ok o ∧
      e = .emit (.synthesizedTwice name) ∧ name ∈ TypeDef.namesOf o.typeDefs ∧
      ¬ (TypeDef.namesOf (emitted ++ o.typeDefs)).Nodup

/-- What an emitter holds after a pass over service interfaces that added to the types `before`:
the types of all of them, or of those earlier than the one that fails, each under its name. -/
def HandsOn {σ : Type} (s : Synthesizer) (types : σ → List TypeDef) (start : Session)
    (before : List TypeDef) (services : List TypeInfo) :
    Option SynthesisError → Pass σ → Prop
  | none, p => ∃ outputs, s.outputs? start services = some (outputs, p.session) ∧
      types p.sink = before ++ outputs.flatMap (·.typeDefs) ∧
      TypeDef.namesOf (types p.sink) = TypeDef.namesOf before ++ outputs.flatMap (·.typeNames) ∧
      (TypeDef.namesOf (types p.sink)).Nodup
  | some e, p => ∃ earlier failing later outputs session,
      services = earlier ++ failing :: later ∧
      s.outputs? start earlier = some (outputs, session) ∧
      types p.sink = before ++ outputs.flatMap (·.typeDefs) ∧
      TypeDef.namesOf (types p.sink) = TypeDef.namesOf before ++ outputs.flatMap (·.typeNames) ∧
      (TypeDef.namesOf (types p.sink)).Nodup ∧ s.FailsAt session (types p.sink) failing e

variable {σ : Type} {s : Synthesizer} {types : σ → List TypeDef} {start between : Session}
variable {before : List TypeDef} {service : TypeInfo} {services : List TypeInfo}

lemma HandsOn.cons {o : InterfaceOutput} {e : Option SynthesisError} {p : Pass σ}
    (ho : s.interfaceOutput start service.name = (.ok o, between))
    (h : s.HandsOn types between (before ++ o.typeDefs) services e p) :
    s.HandsOn types start before (service :: services) e p := by
  have hnames (outputs : List InterfaceOutput) :
      TypeDef.namesOf (before ++ o.typeDefs) ++ outputs.flatMap (·.typeNames) =
        TypeDef.namesOf before ++ (o :: outputs).flatMap (·.typeNames) := by
    rw [TypeDef.namesOf, List.map_append, List.append_assoc, List.flatMap_cons]
    congr 2
    exact o.namesOf_typeDefs
  rcases e with _ | e
  · obtain ⟨outputs, hs, ht, hn, hd⟩ := h
    exact ⟨o :: outputs, by simp [outputs?, ho, hs], by simp [ht], hn.trans (hnames outputs), hd⟩
  · obtain ⟨earlier, failing, later, outputs, session, rfl, hs, ht, hn, hd, hf⟩ := h
    exact ⟨service :: earlier, failing, later, o :: outputs, session, rfl,
      by simp [outputs?, ho, hs], by simp [ht], hn.trans (hnames outputs), hd, hf⟩

lemma HandsOn.fails {e : SynthesisError} {p : Pass σ} (ht : types p.sink = before)
    (hd : (TypeDef.namesOf before).Nodup) (hf : s.FailsAt start before service e) :
    s.HandsOn types start before (service :: services) (some e) p := by
  subst ht
  exact ⟨[], service, services, [], start, rfl, rfl, by simp, by simp, hd, hf⟩

end Synthesizer

def Appends {σ : Type} (emit : TypeDef → σ → Except EmitError σ) (types : σ → List TypeDef) : Prop :=
  ∀ d x, d.name ∉ TypeDef.namesOf (types x) → ∃ y, emit d x = .ok y ∧ types y = types x ++ [d]

lemma find?_name_eq_none {ds : List TypeDef} {name : String} :
    ds.find? (·.name = name) = none ↔ name ∉ TypeDef.namesOf ds := by
  simp [TypeDef.namesOf]

lemma Manifest.appends : Appends Manifest.emit (·.types) := by
  intro d x hd
  have hf := find?_name_eq_none.mpr hd
  exact ⟨⟨x.types ++ [d]⟩, by simp only [emit, contains, get?, hf]; rfl, rfl⟩

lemma Machine.appends : Appends Machine.emit (·.types) := by
  intro d x hd
  have hf := find?_name_eq_none.mpr hd
  exact ⟨{ x with types := x.types ++ [d] }, by simp only [emit, contains, get?, hf]; rfl, rfl⟩

namespace Pass

variable {σ : Type} {emit : TypeDef → σ → Except EmitError σ} {types : σ → List TypeDef}

structure InStep (types : σ → List TypeDef) (p : Pass σ) : Prop where
  emitted : ∀ name, name ∈ p.emitted ↔ name ∈ TypeDef.namesOf (types p.sink)
  distinct : (TypeDef.namesOf (types p.sink)).Nodup

lemma emitAll_appends (ha : Appends emit types) (ds : List TypeDef) (p : Pass σ)
    (hd : (TypeDef.namesOf (types p.sink ++ ds)).Nodup) :
    ∃ q, p.emitAll emit ds = (none, q) ∧ types q.sink = types p.sink ++ ds ∧
      q.session = p.session ∧ q.emitted = p.emitted ∧
      q.registrar = p.registrar.registerAll (TypeDef.namesOf ds) := by
  induction ds generalizing p with
  | nil => exact ⟨p, rfl, by simp, rfl, rfl, rfl⟩
  | cons d rest ih =>
    have hn : d.name ∉ TypeDef.namesOf (types p.sink) := by
      simp only [TypeDef.namesOf, List.map_append, List.map_cons] at hd ⊢
      intro hm
      exact (List.nodup_append'.mp hd).2.2 hm (by simp)
    obtain ⟨y, he, hy⟩ := ha d p.sink hn
    have hd' : (TypeDef.namesOf (types y ++ rest)).Nodup := by
      rw [hy, List.append_assoc]
      exact hd
    obtain ⟨q, hq, ht, hs, hm, hr⟩ :=
      ih { p with sink := y, registrar := p.registrar.register d.name } hd'
    refine ⟨q, ?_, ?_, hs, hm, hr⟩
    · simp only [emitAll, he]
      exact hq
    · rw [ht, hy, List.append_assoc]
      rfl

lemma emitInterface_of_nodup (ha : Appends emit types) {p : Pass σ} (hp : p.InStep types)
    (o : InterfaceOutput) (hd : (TypeDef.namesOf (types p.sink ++ o.typeDefs)).Nodup) :
    ∃ q, p.emitInterface emit o = (none, q) ∧ q.InStep types ∧ q.session = p.session ∧
      types q.sink = types p.sink ++ o.typeDefs ∧
      q.registrar = p.registrar.registerAll (TypeDef.namesOf o.typeDefs ++ o.companions) := by
  have hr : firstRepeated p.emitted (TypeDef.namesOf o.typeDefs) = none := by
    rw [firstRepeated_eq_none_iff]
    rw [TypeDef.namesOf, List.map_append, List.nodup_append'] at hd
    exact ⟨hd.2.1, fun name hm he => hd.2.2 ((hp.emitted name).mp he) hm⟩
  obtain ⟨q, hq, ht, hs, hm, hregistrar⟩ := emitAll_appends ha o.typeDefs p hd
  rw [TypeDef.namesOf] at hr
  simp only [emitInterface, hr, hq]
  refine ⟨_, rfl, ⟨fun name => ?_, ?_⟩, hs, ht, ?_⟩
  · simp only [ht, hm, TypeDef.namesOf, List.map_append, List.mem_append]
    rw [hp.emitted name, or_comm]
    rfl
  · simpa only [ht] using hd
  · simp only [hregistrar, Registrar.registerAll, List.foldl_append]

variable (emit) in
lemma emitInterface_of_not_nodup {p : Pass σ} (hp : p.InStep types) (o : InterfaceOutput)
    (hd : ¬ (TypeDef.namesOf (types p.sink ++ o.typeDefs)).Nodup) :
    ∃ name ∈ TypeDef.namesOf o.typeDefs,
      p.emitInterface emit o = (some (.emit (.synthesizedTwice name)), p) := by
  cases hr : firstRepeated p.emitted (TypeDef.namesOf o.typeDefs) with
  | none =>
    rw [firstRepeated_eq_none_iff] at hr
    refine (hd ?_).elim
    rw [TypeDef.namesOf, List.map_append, List.nodup_append']
    exact ⟨hp.distinct, hr.1, fun name ht hm => hr.2 name hm ((hp.emitted name).mpr ht)⟩
  | some name =>
    refine ⟨name, mem_of_firstRepeated hr, ?_⟩
    rw [TypeDef.namesOf] at hr
    simp only [emitInterface, hr]

variable {s : Synthesizer} {p : Pass σ} {service : TypeInfo}

def enter (p : Pass σ) (service : TypeInfo) (session : Session) : Pass σ :=
  { p with registrar := p.registrar.register service.name, session }

inductive Serves (s : Synthesizer) (types : σ → List TypeDef) (p : Pass σ) (service : TypeInfo) :
    Option SynthesisError × Pass σ → Prop
  | skipped : service.kind ≠ .interface → Serves s types p service (none, { p with
      registrar := p.registrar.register service.name
      report := p.report.skipService service.name })
  | failed {e : SynthesisError} {between : Session} : service.kind = .interface →
      s.interfaceOutput p.session service.name = (.error e, between) →
      Serves s types p service (some e, p.enter service between)
  | repeated {o : InterfaceOutput} {between : Session} {name : String} :
      service.kind = .interface → s.interfaceOutput p.session service.name = (.ok o, between) →
      name ∈ TypeDef.namesOf o.typeDefs →
      ¬ (TypeDef.namesOf (types p.sink ++ o.typeDefs)).Nodup →
      Serves s types p service (some (.emit (.synthesizedTwice name)), p.enter service between)
  | handedOn {o : InterfaceOutput} {q : Pass σ} : service.kind = .interface →
      s.interfaceOutput p.session service.name = (.ok o, q.session) → q.InStep types →
      types q.sink = types p.sink ++ o.typeDefs →
      q.registrar = p.registrar.registerAll
        (service.name :: (TypeDef.namesOf o.typeDefs ++ o.companions)) →
      Serves s types p service (none, q)

lemma runService_serves (ha : Appends emit types) (hp : p.InStep types) (service : TypeInfo) :
    p.Serves s types service (p.runService s emit service) := by
  by_cases hk : service.kind = .interface
  · rcases ho : s.interfaceOutput p.session service.name with ⟨e | o, between⟩
    · simp only [runService, hk, ne_eq, not_true, if_false, ho]
      exact .failed hk ho
    · have hi : (p.enter service between).InStep types := ⟨hp.emitted, hp.distinct⟩
      have hs : p.runService s emit service = (p.enter service between).emitInterface emit o := by
        simp only [runService, hk, ne_eq, not_true, if_false, ho, enter]
      rw [hs]
      by_cases hd : (TypeDef.namesOf (types p.sink ++ o.typeDefs)).Nodup
      · obtain ⟨q, hq, hiq, hb, ht, hr⟩ := emitInterface_of_nodup ha hi o hd
        rw [hq]
        exact .handedOn hk (hb ▸ ho) hiq ht hr
      · obtain ⟨name, hm, he⟩ := emitInterface_of_not_nodup emit hi o hd
        rw [he]
        exact .repeated hk ho hm hd
  · simp only [runService, ne_eq, hk, not_false_eq_true, if_true]
    exact .skipped hk

lemma Serves.inStep {r : Option SynthesisError × Pass σ} (h : p.Serves s types service r)
    (hp : p.InStep types) : r.2.InStep types := by
  cases h with
  | handedOn _ _ hq => exact hq
  | _ => exact ⟨hp.emitted, hp.distinct⟩

lemma runServices_handsOn (ha : Appends emit types) (services : List TypeInfo) (p : Pass σ)
    (hp : p.InStep types) :
    s.HandsOn types p.session (types p.sink) (services.filter (·.kind = .interface))
      (p.runServices s emit services).1 (p.runServices s emit services).2 := by
  induction services generalizing p with
  | nil => exact ⟨[], rfl, (List.append_nil _).symm, (List.append_nil _).symm, hp.distinct⟩
  | cons service rest ih =>
    have hserves := runService_serves (s := s) ha hp service
    rw [runServices]
    generalize p.runService s emit service = r at hserves ⊢
    cases hserves with
    | skipped hk =>
      rw [List.filter_cons_of_neg (by simpa using hk)]
      exact ih _ ⟨hp.emitted, hp.distinct⟩
    | failed hk ho =>
      rw [List.filter_cons_of_pos (by simpa using hk)]
      exact .fails rfl hp.distinct (.inl ⟨by rw [ho], Synthesizer.interfaceOutput_error ho⟩)
    | @repeated o _ name hk ho hm hd =>
      rw [List.filter_cons_of_pos (by simpa using hk)]
      exact .fails rfl hp.distinct (.inr ⟨o, name, by rw [ho], rfl, hm, hd⟩)
    | @handedOn o q hk ho hq ht =>
      rw [List.filter_cons_of_pos (by simpa using hk)]
      have hr := ih q hq
      rw [ht] at hr
      exact hr.cons ho

end Pass

namespace Synthesizer

variable {σ : Type} {emit : TypeDef → σ → Except EmitError σ} {types : σ → List TypeDef}
variable {s : Synthesizer}

def failure? : Except SynthesisError Report → Option SynthesisError
  | .ok _ => none
  | .error e => some e

lemma runOn_handsOn (ha : Appends emit types) (session : Session) {sink : σ}
    (hs : types sink = []) (registrar : Registrar) :
    s.HandsOn types {} [] s.interfaces (failure? (s.runOn session emit sink registrar).1)
      (s.runOn session emit sink registrar).2 := by
  have hi : Pass.InStep types { session := session.reset, sink, registrar : Pass σ } := by
    constructor <;> simp [hs, TypeDef.namesOf]
  have hr := Pass.runServices_handsOn (s := s) ha s.index.webServices _ hi
  rw [hs] at hr
  rw [runOn]
  split
  · next he => rwa [he] at hr
  · next he => rwa [he] at hr

theorem runOn_hands_on_whole_interfaces (s : Synthesizer) (session : Session)
    (registrar : Registrar) (externals : List String) :
    (let r := s.runOn session Manifest.emit {} registrar
     s.HandsOn (·.types) {} [] s.interfaces (failure? r.1) r.2) ∧
    (let r := s.runOn session Machine.emit { externals } registrar
     s.HandsOn (·.types) {} [] s.interfaces (failure? r.1) r.2) :=
  ⟨runOn_handsOn Manifest.appends session rfl registrar,
    runOn_handsOn Machine.appends session rfl registrar⟩

end Synthesizer

namespace Larder

/-- Two interfaces of one package, the first with an overload, that declare the same exception, and
a service that is no interface; the package has a companion. -/
def index : Index where
  types := [
    { name := "org.acme.Larder"
      kind := .interface
      tags := [.ofName TagName.webService]
      methods := [
        { name := "store", params := [{ declaredType := .listOf (.named "string") }],
          throws := [.named "org.acme.Spoiled"] },
        { name := "store", params := [{ declaredType := .named "org.acme.Shelf" }] },
        { name := "count", returns := ⟨TypeExpr.holderBase, [.named "int"]⟩ }] },
    { name := "org.acme.Cellar"
      kind := .interface
      tags := [.ofName TagName.webService]
      methods := [{ name := "draw", throws := [.named "org.acme.Spoiled"] }] },
    { name := "org.acme.Shelf", tags := [.ofName TagName.webService] },
    { name := "org.acme.Spoiled", kind := .exception, faultInfo := some (.named "org.acme.Shelf") },
    { name := "org.acme.jaxws_asm.ObjectFactory" }]
  built := rfl

def synthesizer : Synthesizer := .ofIndex index {}

def annex : TypeInfo where
  name := "org.acme.Annex"
  kind := .interface
  tags := [.ofName TagName.webService]
  methods := [{ name := "extend", params := [{ declaredType := .named "org.acme.Attic" }] }]

def annexed : Index where
  types := index.types ++ [annex]
  built := rfl

def report : Report where
  interfaces := 2
  operations := 3
  wrappers := 6
  faults := 1
  typesEmitted := 20
  skippedServices := ["org.acme.Shelf"]
  skippedOperations := ["org.acme.Larder.store"]

lemma runOn_eq : synthesizer.runOn {} Manifest.emit {} {} =
    (.ok report, (synthesizer.runOn {} Manifest.emit {} {}).2) := by
  have hrun : (synthesizer.runOn {} Manifest.emit {} {}).1 = .ok report := by decide +kernel
  rw [← hrun]

lemma runOn_annexed :
    let failing := (Synthesizer.ofIndex annexed {}).runOn {} Machine.emit {} {}
    Synthesizer.failure? failing.1 =
        some (.unresolvedType "extend" (.named "org.acme.Attic")) ∧
      failing.2.sink.types.length = report.typesEmitted := by
  decide +kernel

theorem runOn_hands_on_larder :
    let whole := synthesizer.runOn {} Manifest.emit {} {}
    let failing := (Synthesizer.ofIndex annexed {}).runOn {} Machine.emit {} {}
    whole.1 = .ok report ∧
      synthesizer.HandsOn (·.types) {} [] synthesizer.interfaces none whole.2 ∧
      (Synthesizer.ofIndex annexed {}).HandsOn (·.types) {} []
        (Synthesizer.ofIndex annexed {}).interfaces
        (some (.unresolvedType "extend" (.named "org.acme.Attic"))) failing.2 ∧
      failing.2.sink.types.length = report.typesEmitted := by
  have hwhole := (Synthesizer.runOn_hands_on_whole_interfaces synthesizer {} {} []).1
  have hfailing := (Synthesizer.runOn_hands_on_whole_interfaces (.ofIndex annexed {}) {} {} []).2
  have hok : (synthesizer.runOn {} Manifest.emit {} {}).1 = .ok report :=
    congrArg Prod.fst runOn_eq
  dsimp only at hwhole hfailing ⊢
  rw [hok, Synthesizer.failure?] at hwhole
  rw [runOn_annexed.1] at hfailing
  exact ⟨hok, hwhole, hfailing, runOn_annexed.2⟩

end Larder

end SoapWrap
