import SoapWrap.Proofs.Pass.Following

/-! What a pass registers: every service that it comes to, every type as soon as it is handed on,
and the companions that the types refer to. -/

namespace SoapWrap

namespace Registrar

variable {r : Registrar} {log : List String}

def Logs (r : Registrar) (log : List String) : Prop := r.names = firstOccurrences log

lemma Logs.register (h : r.Logs log) (name : String) : (r.register name).Logs (log ++ [name]) := by
  have hmem : r.contains name = true ↔ name ∈ log := by
    rw [contains, h, List.contains_iff_mem, mem_firstOccurrences]
  rw [Logs, firstOccurrences_append_singleton, Registrar.register, ← h]
  by_cases hn : name ∈ log
  · rw [if_pos (hmem.mpr hn), if_pos hn]
  · rw [if_neg (mt hmem.mp hn), if_neg hn]

lemma Logs.registerAll (h : r.Logs log) (names : List String) :
    (r.registerAll names).Logs (log ++ names) := by
  induction names generalizing r log with
  | nil =>
    rw [List.append_nil]
    exact h
  | cons name rest ih =>
    have hrest := ih (h.register name)
    rw [List.append_assoc] at hrest
    exact hrest

lemma Logs.nodup (h : r.Logs log) : r.names.Nodup := h ▸ nodup_firstOccurrences log

lemma Logs.mem_iff (h : r.Logs log) {name : String} : name ∈ r.names ↔ name ∈ log := by
  rw [h, mem_firstOccurrences]

end Registrar

def TypeDef.RefersTo (d : TypeDef) (companion : String) : Prop :=
  d.hasCapability Adapter.capability = true ∧
    ∃ m, d.constructor? = some m ∧ ∃ slot args, Op.allocate slot companion args ∈ m.body

lemma Adapter.typeDef_refersTo_iff {a : Adapter} {companion : String} :
    a.typeDef.RefersTo companion ↔ a.objectFactory = some companion := by
  have hcapability : a.typeDef.hasCapability capability = true := by
    simp [TypeDef.hasCapability, typeDef]
  have hconstructor : a.typeDef.constructor? = some (.ofConstructor [] a.constructorBody) := rfl
  rw [TypeDef.RefersTo, and_iff_right hcapability, hconstructor]
  simp only [Option.some.injEq, exists_eq_left', MethodDef.ofConstructor, constructorBody]
  cases a.objectFactory with
  | none => simp
  | some factory => simp [eq_comm]

lemma TypeDef.not_refersTo {d : TypeDef} {companion : String} (h : d.capabilities = []) :
    ¬ d.RefersTo companion := by
  rintro ⟨hcapability, -⟩
  rw [hasCapability, h] at hcapability
  cases hcapability

lemma Bundle.refersTo_iff {b : Bundle} {companion : String} :
    (∃ d ∈ b.typeDefs, d.RefersTo companion) ↔ b.adapter.objectFactory = some companion := by
  have hwrapper : ¬ b.wrapper.typeDef.RefersTo companion := TypeDef.not_refersTo rfl
  have hfactory : ¬ b.factory.typeDef.RefersTo companion := TypeDef.not_refersTo rfl
  simp [typeDefs, hwrapper, hfactory, Adapter.typeDef_refersTo_iff]

namespace InterfaceOutput

variable {o : InterfaceOutput} {name : String}

lemma mem_companions_iff_bundle :
    name ∈ o.companions ↔ ∃ b ∈ o.bundles, b.adapter.objectFactory = some name := by
  have hadapters : (o.operations.flatMap fun op =>
      op.request.adapter.objectFactory.toList ++ op.response.adapter.objectFactory.toList) =
        o.bundles.flatMap (·.adapter.objectFactory.toList) := by
    simp [bundles, OperationOutput.bundles, List.flatMap_assoc]
  rw [companions, mem_firstOccurrences, hadapters, List.mem_flatMap]
  simp only [Option.mem_toList]

lemma mem_companions_iff : name ∈ o.companions ↔ ∃ d ∈ o.typeDefs, d.RefersTo name := by
  rw [mem_companions_iff_bundle]
  constructor
  · rintro ⟨b, hb, hname⟩
    obtain ⟨d, hd, hrefers⟩ := Bundle.refersTo_iff.mpr hname
    exact ⟨d, mem_typeDefs hb hd, hrefers⟩
  · rintro ⟨d, hd, hrefers⟩
    rcases mem_typeDefs_iff.mp hd with ⟨marker, -, rfl⟩ | ⟨b, hb, hd⟩ | ⟨f, -, rfl⟩
    · exact absurd hrefers (TypeDef.not_refersTo rfl)
    · exact ⟨b, hb, Bundle.refersTo_iff.mp ⟨d, hd, hrefers⟩⟩
    · exact absurd hrefers (TypeDef.not_refersTo rfl)

variable {outputs : List InterfaceOutput}

lemma refersTo_flatMap : (∃ d ∈ outputs.flatMap (·.typeDefs), d.RefersTo name) ↔
    ∃ o ∈ outputs, name ∈ o.companions := by
  simp only [mem_companions_iff, List.mem_flatMap]
  constructor
  · rintro ⟨d, ⟨o, ho, hd⟩, hrefers⟩
    exact ⟨o, ho, d, hd, hrefers⟩
  · rintro ⟨o, ho, d, hd, hrefers⟩
    exact ⟨d, ⟨o, ho, hd⟩, hrefers⟩

lemma mem_namesOf_flatMap :
    name ∈ TypeDef.namesOf (outputs.flatMap (·.typeDefs)) ↔
      ∃ o ∈ outputs, name ∈ TypeDef.namesOf o.typeDefs := by
  rw [TypeDef.namesOf, List.map_flatMap, List.mem_flatMap]
  rfl

end InterfaceOutput

def registrations : List TypeInfo → List InterfaceOutput → List String
  | [], _ => []
  | service :: rest, outputs =>
    service.name ::
      if service.kind ≠ .interface then registrations rest outputs
      else match outputs with
        | [] => []
        | o :: outputs => TypeDef.namesOf o.typeDefs ++ o.companions ++ registrations rest outputs

section Registrations

variable {service : TypeInfo} {services : List TypeInfo} {o : InterfaceOutput}
variable {outputs : List InterfaceOutput} {name : String}

lemma registrations_skipped (hk : service.kind ≠ .interface) :
    registrations (service :: services) outputs =
      service.name :: registrations services outputs := by
  simp only [registrations, hk, ne_eq, not_false_eq_true, if_true]

lemma registrations_failed (hk : service.kind = .interface) :
    registrations (service :: services) [] = [service.name] := by
  simp only [registrations, hk, ne_eq, not_true_eq_false, if_false]

lemma registrations_handedOn (hk : service.kind = .interface) :
    registrations (service :: services) (o :: outputs) = service.name ::
      (TypeDef.namesOf o.typeDefs ++ o.companions ++ registrations services outputs) := by
  simp only [registrations, hk, ne_eq, not_true_eq_false, if_false]

lemma mem_registrations_of_output
    (h : outputs.length ≤ (services.filter (·.kind = .interface)).length) :
    ∀ o ∈ outputs, ∀ name ∈ TypeDef.namesOf o.typeDefs ++ o.companions,
      name ∈ registrations services outputs := by
  induction services generalizing outputs with
  | nil =>
    obtain rfl := List.length_eq_zero_iff.mp (Nat.le_zero.mp h)
    exact List.forall_mem_nil _
  | cons service rest ih =>
    by_cases hk : service.kind = .interface
    · cases outputs with
      | nil => exact List.forall_mem_nil _
      | cons o outputs =>
        rw [List.filter_cons_of_pos (by simpa using hk)] at h
        rw [registrations_handedOn hk, List.forall_mem_cons]
        refine ⟨fun name hn => ?_, fun o' ho' name hn => ?_⟩
        · exact List.mem_cons_of_mem _ (List.mem_append_left _ hn)
        · have hrest := ih (Nat.le_of_succ_le_succ h) o' ho' name hn
          exact List.mem_cons_of_mem _ (List.mem_append_right _ hrest)
    · rw [List.filter_cons_of_neg (by simpa using hk)] at h
      rw [registrations_skipped hk]
      exact fun o ho name hn => List.mem_cons_of_mem _ (ih h o ho name hn)

lemma mem_registrations_iff
    (h : outputs.length = (services.filter (·.kind = .interface)).length) :
    name ∈ registrations services outputs ↔ name ∈ services.map (·.name) ∨
      ∃ o ∈ outputs, name ∈ TypeDef.namesOf o.typeDefs ++ o.companions := by
  induction services generalizing outputs with
  | nil =>
    obtain rfl := List.length_eq_zero_iff.mp h
    simp [registrations]
  | cons service rest ih =>
    by_cases hk : service.kind = .interface
    · rw [List.filter_cons_of_pos (by simpa using hk)] at h
      cases outputs with
      | nil => cases h
      | cons o outputs =>
        rw [registrations_handedOn hk, List.mem_cons, List.mem_append, ih (Nat.succ.inj h),
          List.map_cons, List.mem_cons, List.exists_mem_cons_iff, or_assoc]
        exact or_congr_right (or_left_comm)
    · rw [List.filter_cons_of_neg (by simpa using hk)] at h
      rw [registrations_skipped hk, List.mem_cons, ih h, List.map_cons, List.mem_cons, or_assoc]

end Registrations

namespace Pass

variable {σ : Type} {emit : TypeDef → σ → Except EmitError σ} {types : σ → List TypeDef}
variable {s : Synthesizer} {p q : Pass σ} {log : List String}

def Registers (s : Synthesizer) (types : σ → List TypeDef) (p : Pass σ) (log : List String)
    (services : List TypeInfo) (r : Option SynthesisError × Pass σ) : Prop :=
  ∃ outputs : List InterfaceOutput,
    outputs.length ≤ (services.filter (·.kind = .interface)).length ∧
    types r.2.sink = types p.sink ++ outputs.flatMap (·.typeDefs) ∧
    r.2.registrar.Logs (log ++ registrations services outputs) ∧
    (r.1 = none → s.outputs? p.session (services.filter (·.kind = .interface)) =
      some (outputs, r.2.session))

lemma Registers.stop {service : TypeInfo} {services : List TypeInfo} {between : Session}
    {e : SynthesisError} (hk : service.kind = .interface) (hlog : p.registrar.Logs log) :
    p.Registers s types log (service :: services) (some e, p.enter service between) := by
  refine ⟨[], Nat.zero_le _, (List.append_nil _).symm, ?_, fun h => ?_⟩
  · rw [registrations_failed hk]
    exact hlog.register service.name
  · exact absurd h (Option.some_ne_none e)

lemma runServices_registers (ha : Appends emit types) (services : List TypeInfo) {p : Pass σ}
    (hp : p.InStep types) (hlog : p.registrar.Logs log) :
    p.Registers s types log services (p.runServices s emit services) := by
  induction services generalizing p log with
  | nil => exact ⟨[], Nat.le_refl 0, by simp [runServices], by simpa [registrations], fun _ => rfl⟩
  | cons service rest ih =>
    have hserves := runService_serves (s := s) ha hp service
    rw [runServices]
    generalize p.runService s emit service = r at hserves ⊢
    cases hserves with
    | skipped hk =>
      obtain ⟨outputs, hlength, ht, hl, ho⟩ := ih (p := { p with
        registrar := p.registrar.register service.name
        report := p.report.skipService service.name }) ⟨hp.emitted, hp.distinct⟩ (hlog.register _)
      refine ⟨outputs, ?_, ht, ?_, ?_⟩
      · rwa [List.filter_cons_of_neg (by simpa using hk)]
      · rwa [registrations_skipped hk, List.append_cons]
      · rwa [List.filter_cons_of_neg (by simpa using hk)]
    | failed hk => exact .stop hk hlog
    | repeated hk => exact .stop hk hlog
    | @handedOn o q hk ho hq ht hr =>
      have hlogs := hlog.registerAll (service.name :: (TypeDef.namesOf o.typeDefs ++ o.companions))
      rw [← hr] at hlogs
      obtain ⟨outputs, hlength, hts, hl, hos⟩ := ih hq hlogs
      refine ⟨o :: outputs, ?_, ?_, ?_, fun hnone => ?_⟩
      · rw [List.filter_cons_of_pos (by simpa using hk)]
        exact Nat.succ_le_succ hlength
      · rw [hts, ht, List.append_assoc, List.flatMap_cons]
      · rw [registrations_handedOn hk]
        simpa using hl
      · rw [List.filter_cons_of_pos (by simpa using hk), Synthesizer.outputs?, ho]
        simp only [hos hnone, Option.map_some]

end Pass

namespace Synthesizer

variable {s : Synthesizer} {session after : Session} {services : List TypeInfo}
variable {outputs : List InterfaceOutput}

lemma outputs?_length (h : s.outputs? session services = some (outputs, after)) :
    outputs.length = services.length := by
  induction services generalizing session outputs with
  | nil =>
    rw [outputs?, Option.some.injEq, Prod.mk.injEq] at h
    rw [← h.1]
    rfl
  | cons service rest ih =>
    obtain ⟨o, between, os, -, hr, rfl⟩ := outputs?_cons_ok h
    rw [List.length_cons, List.length_cons, ih hr]

lemma runOn_logs {σ : Type} {emit : TypeDef → σ → Except EmitError σ} {types : σ → List TypeDef}
    (ha : Appends emit types) {sink : σ} (hs : types sink = []) (s : Synthesizer)
    (session : Session) :
    let r := s.runOn session emit sink {}
    ∃ outputs : List InterfaceOutput, outputs.length ≤ s.interfaces.length ∧
      types r.2.sink = outputs.flatMap (·.typeDefs) ∧
      r.2.registrar.Logs (registrations s.index.webServices outputs) ∧
      ∀ report, r.1 = .ok report → s.outputs? {} s.interfaces = some (outputs, r.2.session) := by
  intro r
  let start : Pass σ := { session := session.reset, sink }
  have hstart : start.InStep types := by
    constructor <;> simp [start, hs, TypeDef.namesOf]
  have hempty : start.registrar.Logs [] := rfl
  obtain ⟨outputs, hlength, htypes, hlogs, hall⟩ :=
    Pass.runServices_registers (s := s) ha s.index.webServices hstart hempty
  have hsink : types start.sink = [] := hs
  have hr : r.2 = (start.runServices s emit s.index.webServices).2 := runOn_snd
  rw [hsink, List.nil_append, ← hr] at htypes
  rw [List.nil_append, ← hr] at hlogs
  refine ⟨outputs, hlength, htypes, hlogs, fun report hok => ?_⟩
  have hdone := (runOn_ok (Prod.ext hok rfl)).2
  rw [hr]
  exact hall (congrArg Prod.fst hdone)

theorem runOn_registers (index : Index) (settings : Settings) (session : Session) :
    let s := ofIndex index settings
    let r := s.runOn session Manifest.emit {} {}
    let names := r.2.registrar.names
    (∀ d ∈ r.2.sink.types, d.name ∈ names) ∧ names.Nodup ∧
      ∀ report, r.1 = .ok report →
        (∀ name, name ∈ names ↔ name ∈ index.webServices.map (·.name) ∨
          name ∈ TypeDef.namesOf r.2.sink.types ∨ ∃ d ∈ r.2.sink.types, d.RefersTo name) ∧
        ∃ outputs, s.outputs? {} s.interfaces = some (outputs, r.2.session) ∧
          r.2.sink.types = outputs.flatMap (·.typeDefs) ∧
          names = firstOccurrences (registrations index.webServices outputs) := by
  intro s r names
  obtain ⟨outputs, hlength, htypes, hlogs, hall⟩ := runOn_logs Manifest.appends rfl s session
  refine ⟨fun d hd => ?_, hlogs.nodup, fun report hok => ?_⟩
  · rw [htypes] at hd
    obtain ⟨o, ho, hd⟩ := List.mem_flatMap.mp hd
    exact hlogs.mem_iff.mpr (mem_registrations_of_output hlength o ho d.name
      (List.mem_append_left _ (List.mem_map_of_mem hd)))
  · have hout := hall report hok
    refine ⟨fun name => ?_, outputs, hout, htypes, hlogs⟩
    rw [hlogs.mem_iff, mem_registrations_iff (outputs?_length hout), htypes,
      InterfaceOutput.mem_namesOf_flatMap, InterfaceOutput.refersTo_flatMap]
    simp only [List.mem_append, and_or_left, exists_or]
    exact Iff.rfl

end Synthesizer

namespace Larder

theorem larder_registers_services_types_companions :
    let r := (Synthesizer.ofIndex index {}).runOn {} Manifest.emit {} {}
    r.1 = .ok report ∧ ∀ name, name ∈ r.2.registrar.names ↔
      name ∈ index.webServices.map (·.name) ∨ name ∈ TypeDef.namesOf r.2.sink.types ∨
        ∃ d ∈ r.2.sink.types, d.RefersTo name := by
  have hrun : ((Synthesizer.ofIndex index {}).runOn {} Manifest.emit {} {}).1 = .ok report :=
    congrArg Prod.fst runOn_eq
  exact ⟨hrun, ((Synthesizer.runOn_registers index {} {}).2.2 report hrun).1⟩

end Larder

end SoapWrap
