import Mathlib.Data.List.TakeWhile
import SoapWrap.Proofs.Pass.Balance

/-! A pass into a manifest that is not empty. Only a name that the manifest held before can be
refused, and the interface that has it leaves the types in front of that one behind. -/

namespace SoapWrap

namespace Manifest

variable {m : Manifest} {name : String}

lemma contains_eq_true_iff_mem : m.contains name = true ↔ name ∈ TypeDef.namesOf m.types := by
  rw [contains, get?, Option.isSome_iff_ne_none, ne_eq, find?_name_eq_none, not_not]

lemma contains_snoc (d : TypeDef) :
    Manifest.contains ⟨m.types ++ [d]⟩ name = (m.contains name || d.name = name) := by
  rw [Bool.eq_iff_iff, Bool.or_eq_true, decide_eq_true_eq, contains_eq_true_iff_mem,
    contains_eq_true_iff_mem]
  simp [TypeDef.namesOf, eq_comm]

def clash? (m : Manifest) (ds : List TypeDef) : Option TypeDef := ds.find? (m.contains ·.name)

def beforeClash (m : Manifest) (ds : List TypeDef) : List TypeDef :=
  ds.takeWhile (! m.contains ·.name)

lemma beforeClash_eq_self {ds : List TypeDef} (h : m.clash? ds = none) : m.beforeClash ds = ds := by
  have hnone : ∀ d ∈ ds, (! m.contains d.name) = true := by
    simpa [clash?] using h
  exact List.takeWhile_eq_self_iff.mpr hnone

lemma contains_of_clash? {ds : List TypeDef} (h : (m.clash? ds).map (·.name) = some name) :
    m.contains name = true := by
  obtain ⟨d, hd, rfl⟩ := Option.map_eq_some_iff.mp h
  simpa using List.find?_some hd

lemma beforeClash_eq_nil_iff {ds : List TypeDef} (h : (m.clash? ds).map (·.name) = some name) :
    m.beforeClash ds = [] ↔ ds.head?.map (·.name) = some name := by
  have hname := contains_of_clash? h
  cases ds with
  | nil => cases h
  | cons d rest =>
    rw [beforeClash, List.takeWhile_cons, List.head?_cons, Option.map_some, Option.some.injEq]
    cases hc : m.contains d.name with
    | true =>
      simpa [clash?, hc] using h
    | false =>
      have hne : d.name ≠ name := by
        rintro rfl
        rw [hname] at hc
        cases hc
      simp [hne]

end Manifest

namespace Pass

variable {s : Synthesizer} {held : Manifest} {p q : Pass Manifest} {name : String}

def Onto (held : Manifest) (p : Pass Manifest) : Prop :=
  ∀ name, p.sink.contains name = (held.contains name || name ∈ p.emitted)

lemma emitAll_beforeClash (ds : List TypeDef) (p : Pass Manifest)
    (hd : (TypeDef.namesOf ds).Nodup)
    (hheld : ∀ d ∈ ds, p.sink.contains d.name = held.contains d.name) :
    ∃ q, p.emitAll Manifest.emit ds =
        ((held.clash? ds).map fun d => .emit (.emittedTwice d.name), q) ∧
      q.sink.types = p.sink.types ++ held.beforeClash ds ∧ q.emitted = p.emitted := by
  induction ds generalizing p with
  | nil => exact ⟨p, rfl, (List.append_nil _).symm, rfl⟩
  | cons d rest ih =>
    rw [TypeDef.namesOf, List.map_cons, List.nodup_cons] at hd
    rw [List.forall_mem_cons] at hheld
    cases hc : held.contains d.name with
    | true =>
      refine ⟨p, ?_, ?_, rfl⟩
      · simp [emitAll, Manifest.emit, hheld.1, hc, Manifest.clash?]
      · simp [Manifest.beforeClash, hc]
    | false =>
      -- The names that follow are other ones, so that the manifest answers for them as before.
      have hrest : ∀ e ∈ rest,
          Manifest.contains ⟨p.sink.types ++ [d]⟩ e.name = held.contains e.name := by
        intro e he
        have hne : d.name ≠ e.name := fun hn => hd.1 (hn ▸ List.mem_map_of_mem he)
        rw [Manifest.contains_snoc, hheld.2 e he, decide_eq_false hne, Bool.or_false]
      obtain ⟨q, hq, ht, hm⟩ :=
        ih { p with sink := ⟨p.sink.types ++ [d]⟩, registrar := p.registrar.register d.name } hd.2
          hrest
      refine ⟨q, ?_, ?_, hm⟩
      · simp [emitAll, Manifest.emit, hheld.1, hc, hq, Manifest.clash?]
      · simp [ht, Manifest.beforeClash, hc]

lemma Onto.emitAll (hp : p.Onto held) (o : InterfaceOutput)
    (hr : firstRepeated p.emitted (o.typeDefs.map (·.name)) = none) :
    ∃ q, p.emitAll Manifest.emit o.typeDefs =
        ((held.clash? o.typeDefs).map fun d => .emit (.emittedTwice d.name), q) ∧
      q.sink.types = p.sink.types ++ held.beforeClash o.typeDefs ∧ q.emitted = p.emitted := by
  rw [firstRepeated_eq_none_iff] at hr
  refine emitAll_beforeClash o.typeDefs p hr.1 fun d hd => ?_
  rw [hp, decide_eq_false (hr.2 d.name (List.mem_map_of_mem hd)), Bool.or_false]

lemma emitInterface_accepted (hp : p.Onto held) {o : InterfaceOutput}
    (h : p.emitInterface Manifest.emit o = (none, q)) :
    q.Onto held ∧ q.sink.types = p.sink.types ++ o.typeDefs := by
  rw [emitInterface] at h
  split at h
  · cases h
  · next hr =>
    obtain ⟨q', he, htypes, hemitted⟩ := hp.emitAll o hr
    rw [he] at h
    cases hc : held.clash? o.typeDefs with
    | some d =>
      rw [hc] at h
      cases h
    | none =>
      rw [hc] at h
      obtain ⟨-, rfl⟩ := Prod.mk.inj h
      rw [Manifest.beforeClash_eq_self hc] at htypes
      refine ⟨fun name => ?_, htypes⟩
      have hsink := hp name
      rw [Bool.eq_iff_iff, Bool.or_eq_true, decide_eq_true_eq,
        Manifest.contains_eq_true_iff_mem] at hsink ⊢
      rw [htypes, TypeDef.namesOf, List.map_append, List.mem_append, ← TypeDef.namesOf, hsink,
        hemitted, List.mem_append, or_right_comm, or_assoc, or_comm (a := name ∈ _)]

lemma emitInterface_refused (hp : p.Onto held) {o : InterfaceOutput}
    (h : p.emitInterface Manifest.emit o = (some (.emit (.emittedTwice name)), q)) :
    (held.clash? o.typeDefs).map (·.name) = some name ∧
      q.sink.types = p.sink.types ++ held.beforeClash o.typeDefs := by
  rw [emitInterface] at h
  split at h
  · simp at h
  · next hr =>
    obtain ⟨q', he, htypes, -⟩ := hp.emitAll o hr
    rw [he] at h
    cases hc : held.clash? o.typeDefs with
    | some d =>
      rw [hc] at h
      obtain ⟨rfl, rfl⟩ : d.name = name ∧ q' = q := by simpa using h
      exact ⟨rfl, htypes⟩
    | none =>
      rw [hc] at h
      cases h

end Pass

namespace Synthesizer

variable {s : Synthesizer} {held : Manifest} {start between : Session} {before : List TypeDef}
variable {service : TypeInfo} {services : List TypeInfo} {o : InterfaceOutput} {name : String}
variable {p q : Pass Manifest}

def RefusedIn (s : Synthesizer) (held : Manifest) (start : Session) (before : List TypeDef)
    (services : List TypeInfo) (name : String) (p : Pass Manifest) : Prop :=
  ∃ earlier failing later outputs session o,
    services = earlier ++ failing :: later ∧
    s.outputs? start earlier = some (outputs, session) ∧
    (s.interfaceOutput session failing.name).1 = .ok o ∧
    (held.clash? o.typeDefs).map (·.name) = some name ∧
    p.sink.types = before ++ outputs.flatMap (·.typeDefs) ++ held.beforeClash o.typeDefs

lemma RefusedIn.cons (ho : s.interfaceOutput start service.name = (.ok o, between))
    (h : s.RefusedIn held between (before ++ o.typeDefs) services name p) :
    s.RefusedIn held start before (service :: services) name p := by
  obtain ⟨earlier, failing, later, outputs, session, o', rfl, hs, ho', hname, htypes⟩ := h
  exact ⟨service :: earlier, failing, later, o :: outputs, session, o', rfl,
    by simp [outputs?, ho, hs], ho', hname, by simp [htypes]⟩

lemma RefusedIn.head (ho : s.interfaceOutput start service.name = (.ok o, between))
    (hname : (held.clash? o.typeDefs).map (·.name) = some name)
    (htypes : p.sink.types = before ++ held.beforeClash o.typeDefs) :
    s.RefusedIn held start before (service :: services) name p :=
  ⟨[], service, services, [], start, o, rfl, rfl, by rw [ho], hname, by simp [htypes]⟩

lemma runServices_refused (hp : p.Onto held)
    (h : p.runServices s Manifest.emit services = (some (.emit (.emittedTwice name)), q)) :
    s.RefusedIn held p.session p.sink.types (services.filter (·.kind = .interface)) name q := by
  induction services generalizing p with
  | nil => cases h
  | cons service rest ih =>
    by_cases hk : service.kind = .interface
    · rw [List.filter_cons_of_pos (by simpa using hk)]
      rcases ho : s.interfaceOutput p.session service.name with ⟨e | o, session⟩
      · -- The synthesis of an interface fails for no reason of emission.
        simp only [Pass.runServices, Pass.runService, hk, ne_eq, not_true, if_false, ho] at h
        obtain ⟨rfl, -⟩ : e = .emit (.emittedTwice name) ∧ _ := by simpa using h
        cases interfaceOutput_error ho
      · let entered : Pass Manifest :=
          { p with registrar := p.registrar.register service.name, session }
        have hentered : entered.Onto held := hp
        have hs : p.runService s Manifest.emit service = entered.emitInterface Manifest.emit o := by
          simp only [Pass.runService, hk, ne_eq, not_true, if_false, ho, entered]
        rcases he : entered.emitInterface Manifest.emit o with ⟨_ | e, between⟩
        · simp only [Pass.runServices, hs, he] at h
          obtain ⟨hbetween, htypes⟩ := Pass.emitInterface_accepted hentered he
          have hrest := ih hbetween h
          rw [(Pass.emitInterface_ok he).1, htypes] at hrest
          exact hrest.cons ho
        · simp only [Pass.runServices, hs, he] at h
          obtain ⟨rfl, rfl⟩ : e = .emit (.emittedTwice name) ∧ between = q := by simpa using h
          obtain ⟨hname, htypes⟩ := Pass.emitInterface_refused hentered he
          exact .head ho hname htypes
    · rw [List.filter_cons_of_neg (by simpa using hk)]
      simp only [Pass.runServices, Pass.runService, ne_eq, hk, not_false_eq_true, if_true] at h
      have hskipped : Pass.Onto held { p with
          registrar := p.registrar.register service.name
          report := p.report.skipService service.name } := hp
      have hrest := ih hskipped h
      exact hrest

theorem runOn_refused_keeps_types_before_clash (s : Synthesizer) (session : Session)
    (registrar : Registrar) (held : Manifest) (name : String)
    (h : (s.runOn session Manifest.emit held registrar).1 =
      .error (.emit (.emittedTwice name))) :
    let types := (s.runOn session Manifest.emit held registrar).2.sink.types
    name ∈ TypeDef.namesOf held.types ∧ ∃ earlier failing later outputs between o,
      s.interfaces = earlier ++ failing :: later ∧
      s.outputs? {} earlier = some (outputs, between) ∧
      (s.interfaceOutput between failing.name).1 = .ok o ∧
      (held.clash? o.typeDefs).map (·.name) = some name ∧
      types = held.types ++ outputs.flatMap (·.typeDefs) ++ held.beforeClash o.typeDefs ∧
      (types = held.types ++ outputs.flatMap (·.typeDefs) ↔
        o.typeDefs.head?.map (·.name) = some name) := by
  intro types
  have hstart : Pass.Onto held { session := session.reset, sink := held, registrar } := by
    simp [Pass.Onto]
  rcases hr : Pass.runServices s Manifest.emit { session := session.reset, sink := held, registrar }
    s.index.webServices with ⟨_ | e, p⟩
  · rw [runOn, hr] at h
    cases h
  · have hp : (s.runOn session Manifest.emit held registrar).2 = p := by
      rw [runOn, hr]
    rw [runOn, hr] at h
    obtain rfl := Except.error.inj h
    obtain ⟨earlier, failing, later, outputs, between, o, hs, hout, ho, hname, htypes⟩ :=
      runServices_refused hstart hr
    have htypes : types = _ := (congrArg (·.sink.types) hp).trans htypes
    refine ⟨Manifest.contains_eq_true_iff_mem.mp (Manifest.contains_of_clash? hname), earlier,
      failing, later, outputs, between, o, hs, hout, ho, hname, htypes, ?_⟩
    rw [htypes, List.append_right_eq_self, Manifest.beforeClash_eq_nil_iff hname]

end Synthesizer

namespace Larder

def stocked : Manifest := ⟨[{ name := "org.acme.jaxws_asm.DrawResponse" }]⟩

theorem stocked_keeps_request_of_cellar :
    let r := synthesizer.runOn {} Manifest.emit stocked {}
    r.1 = .error (.emit (.emittedTwice "org.acme.jaxws_asm.DrawResponse")) ∧
      (TypeDef.namesOf r.2.sink.types).drop 14 = ["org.acme.jaxws_asm.Spoiled_Exception",
        "org.acme.jaxws_asm.Draw", "org.acme.jaxws_asm.Draw_Adapter1",
        "org.acme.jaxws_asm.DrawFactory"] ∧
      ∃ (outputs : List InterfaceOutput) (o : InterfaceOutput),
        r.2.sink.types =
          stocked.types ++ outputs.flatMap (·.typeDefs) ++ stocked.beforeClash o.typeDefs := by
  intro r
  have hrefused : r.1 = .error (.emit (.emittedTwice "org.acme.jaxws_asm.DrawResponse")) := by
    decide +kernel
  obtain ⟨-, earlier, failing, later, outputs, between, o, hs, hout, ho, hname, htypes, -⟩ :=
    synthesizer.runOn_refused_keeps_types_before_clash {} {} stocked _ hrefused
  exact ⟨hrefused, by decide +kernel, outputs, o, htypes⟩

end Larder

namespace Kettle

def index : Index where
  types := [{
    name := "org.acme.Kettle"
    kind := .interface
    tags := [.ofName TagName.webService]
    methods := [{ name := "boil" }] }]
  built := rfl

def synthesizer : Synthesizer := .ofIndex index {}

def held : Manifest := ⟨[{ name := "org.acme.jaxws_asm.Boil" }]⟩

theorem refused_kettle_leaves_its_marker :
    let r := synthesizer.runOn {} Manifest.emit held {}
    r.1 = .error (.emit (.emittedTwice "org.acme.jaxws_asm.Boil")) ∧
      synthesizer.interfaces.map (·.name) = ["org.acme.Kettle"] ∧
      TypeDef.namesOf r.2.sink.types =
        ["org.acme.jaxws_asm.Boil", "org.acme.jaxws_asm.package-info"] ∧
      r.2.sink.types ≠ held.types := by
  decide +kernel

end Kettle

end SoapWrap
