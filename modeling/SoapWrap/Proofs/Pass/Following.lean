import SoapWrap.Proofs.Pass.Balance
import SoapWrap.Proofs.Synthesis.Following

namespace SoapWrap

namespace Pass

variable {σ : Type} {emit : TypeDef → σ → Except EmitError σ} {types : σ → List TypeDef}
variable {other s : Synthesizer} {doubted : TypeExpr → Bool} {p q : Pass σ} {service : TypeInfo}

lemma runServices_append {earlier : List TypeInfo} (h : p.runServices s emit earlier = (none, q))
    (later : List TypeInfo) :
    p.runServices s emit (earlier ++ later) = q.runServices s emit later := by
  induction earlier generalizing p with
  | nil =>
    obtain ⟨-, rfl⟩ := Prod.mk.inj h
    rfl
  | cons service rest ih =>
    rw [runServices] at h
    rw [List.cons_append, runServices]
    split at h
    · simp at h
    · exact ih h

lemma runService_skips (hk : service.kind ≠ .interface) :
    p.runService other emit service = p.runService s emit service := by
  simp only [runService, ne_eq, hk, not_false_eq_true, if_true]

section Extends

variable (ha : Appends emit types) (hp : p.InStep types)
include ha hp

lemma runService_extends (service : TypeInfo) :
    (p.runService s emit service).2.InStep types ∧
      types p.sink <+: types (p.runService s emit service).2.sink := by
  have hserves := runService_serves (s := s) ha hp service
  refine ⟨hserves.inStep hp, ?_⟩
  generalize p.runService s emit service = r at hserves ⊢
  cases hserves with
  | handedOn _ _ _ ht =>
    rw [ht]
    exact List.prefix_append _ _
  | _ => exact List.prefix_rfl

lemma runServices_extends (services : List TypeInfo) :
    (p.runServices s emit services).2.InStep types ∧
      types p.sink <+: types (p.runServices s emit services).2.sink := by
  induction services generalizing p with
  | nil => exact ⟨hp, List.prefix_rfl⟩
  | cons service rest ih =>
    have hfirst := runService_extends (s := s) ha hp service
    rw [runServices]
    split
    · next hs =>
      rw [hs] at hfirst
      exact hfirst
    · next q hs =>
      rw [hs] at hfirst
      have hlater := ih hfirst.1
      exact ⟨hlater.1, hfirst.2.trans hlater.2⟩

end Extends

section Follows

variable (h : other.Follows s doubted)
include h

lemma runService_follows {o : InterfaceOutput} {between : Session}
    (hs : service ∈ s.index.webServices) (hk : service.kind = .interface)
    (ho : s.interfaceOutput p.session service.name = (.ok o, between))
    (hrun : p.runService s emit service = (none, q)) :
    Echoes some doubted o.fieldTypes (none, q) (p.runService other emit service) := by
  have hecho := h.interfaceOutput hs hk ho
  simp only [runService, hk, ne_eq, not_true, if_false, ho] at hrun ⊢
  generalize other.interfaceOutput _ _ = answer at hecho ⊢
  cases hecho with
  | same hfind => exact hrun ▸ .same hfind
  | refused hfind => exact .refused hfind

lemma runServices_follows {services : List TypeInfo}
    (hs : ∀ service ∈ services, service ∈ s.index.webServices)
    (hrun : p.runServices s emit services = (none, q)) :
    ∃ outputs, s.outputs? p.session (services.filter (·.kind = .interface)) =
        some (outputs, q.session) ∧
      Echoes some doubted (outputs.flatMap (·.fieldTypes)) (none, q)
        (p.runServices other emit services) := by
  induction services generalizing p with
  | nil =>
    obtain ⟨-, rfl⟩ := Prod.mk.inj hrun
    exact ⟨[], rfl, .same rfl⟩
  | cons service rest ih =>
    rw [List.forall_mem_cons] at hs
    rw [runServices] at hrun ⊢
    split at hrun
    · simp at hrun
    · next between hfirst =>
      obtain ⟨outputs, hout, hlater⟩ := ih hs.2 hrun
      rcases runService_ok hfirst with ⟨hk, hb, -⟩ | ⟨hk, o, ho, -⟩
      · refine ⟨outputs, ?_, ?_⟩
        · rw [List.filter_cons_of_neg (by simpa using hk), ← hb, hout]
        · rw [(runService_skips hk).trans hfirst]
          exact hlater
      · refine ⟨o :: outputs, ?_, ?_⟩
        · rw [List.filter_cons_of_pos (by simpa using hk)]
          simp only [Synthesizer.outputs?, ho, hout, Option.map_some]
        · have hecho := runService_follows h hs.1 hk ho hfirst
          rw [List.flatMap_cons]
          generalize p.runService other emit service = answer at hecho ⊢
          cases hecho with
          | same hfind => exact hlater.append hfind
          | refused hfind => exact .refused_append hfind _

end Follows

end Pass

namespace Synthesizer

variable {σ : Type} {emit : TypeDef → σ → Except EmitError σ} {types : σ → List TypeDef}
variable {other s : Synthesizer} {doubted : TypeExpr → Bool} {session : Session} {sink : σ}
variable {registrar : Registrar} {report : Report} {p : Pass σ}

lemma runOn_types (ha : Appends emit types) (hs : types sink = []) {outputs : List InterfaceOutput}
    (hout : s.outputs? {} s.interfaces = some (outputs, p.session))
    (hrun : s.runOn session emit sink registrar = (.ok report, p)) :
    types p.sink = outputs.flatMap (·.typeDefs) := by
  have hon := runOn_handsOn (s := s) ha session hs registrar
  rw [hrun] at hon
  obtain ⟨outputs', hout', htypes, -⟩ := hon
  obtain rfl := (Prod.mk.inj (Option.some.inj (hout'.symm.trans hout))).1
  rw [htypes, List.nil_append]

lemma runOn_ok (hrun : s.runOn session emit sink registrar = (.ok report, p)) :
    report = p.report ∧ Pass.runServices s emit { session := session.reset, sink, registrar }
      s.index.webServices = (none, p) := by
  rw [runOn] at hrun
  split at hrun
  · simp at hrun
  · next hdone =>
    obtain ⟨hr, rfl⟩ := Prod.mk.inj hrun
    exact ⟨(Except.ok.inj hr).symm, hdone⟩

lemma runOn_snd : (s.runOn session emit sink registrar).2 =
    (Pass.runServices s emit { session := session.reset, sink, registrar }
      s.index.webServices).2 := by
  rw [runOn]
  split <;> simp_all

lemma runOn_prefix (ha : Appends emit types) (hs : types sink = [])
    (h : other.Follows s fun _ => false) {later : List TypeInfo}
    (hw : other.index.webServices = s.index.webServices ++ later)
    (hrun : s.runOn session emit sink registrar = (.ok report, p)) :
    types p.sink <+: types (other.runOn session emit sink registrar).2.sink := by
  let start : Pass σ := { session := session.reset, sink, registrar }
  have hstart : start.InStep types := by
    constructor <;> simp [start, hs, TypeDef.namesOf]
  have hdone : start.runServices s emit s.index.webServices = (none, p) := (runOn_ok hrun).2
  obtain ⟨outputs, -, hecho⟩ := Pass.runServices_follows h (fun _ hs => hs) hdone
  have hother := hecho.eq_of_no_doubt
  have hp := (Pass.runServices_extends (s := other) ha hstart s.index.webServices).1
  rw [hother] at hp
  rw [runOn_snd, hw, Pass.runServices_append hother later]
  exact (Pass.runServices_extends ha hp later).2

lemma runOn_follows (h : other.Follows s doubted)
    (hw : other.index.webServices = s.index.webServices)
    (hrun : s.runOn session emit sink registrar = (.ok report, p)) :
    ∃ outputs, s.outputs? {} s.interfaces = some (outputs, p.session) ∧
      Echoes .error doubted (outputs.flatMap (·.fieldTypes)) (.ok report, p)
        (other.runOn session emit sink registrar) := by
  obtain ⟨rfl, hdone⟩ := runOn_ok hrun
  obtain ⟨outputs, hout, hecho⟩ := Pass.runServices_follows h (fun _ hs => hs) hdone
  refine ⟨outputs, hout, ?_⟩
  rw [runOn, hw]
  generalize Pass.runServices other _ _ _ = answer at hecho ⊢
  cases hecho with
  | same hfind => exact .same hfind
  | refused hfind => exact .refused hfind

end Synthesizer

end SoapWrap
