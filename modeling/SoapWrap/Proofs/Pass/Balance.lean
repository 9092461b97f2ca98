import Mathlib.Data.List.Dedup
import SoapWrap.Proofs.Pass.Emission
import SoapWrap.Proofs.Synthesis.Settlement

/-! The report of a pass balances: every service, every method and every type is counted, and each
package is marked once. -/

namespace SoapWrap

namespace Report

def extend (r : Report) (services : List TypeInfo) (outputs : List InterfaceOutput) : Report where
  interfaces := r.interfaces + outputs.length
  operations := r.operations + (outputs.flatMap (·.operations)).length
  wrappers := r.wrappers + (outputs.flatMap (·.operations)).length * 2
  faults := r.faults + (outputs.flatMap (·.faults)).length
  typesEmitted := r.typesEmitted + (outputs.flatMap (·.typeDefs)).length
  skippedServices := r.skippedServices ++
    (services.filter (·.kind ≠ .interface)).map (·.name)
  skippedOperations := r.skippedOperations ++
    outputs.flatMap fun o => o.skipped.map (o.interface ++ "." ++ ·)

variable {r : Report} {services : List TypeInfo} {outputs : List InterfaceOutput}

lemma extend_nil : r.extend [] [] = r := by
  simp [extend]

lemma extend_skipService {service : TypeInfo} (hk : service.kind ≠ .interface) :
    (r.skipService service.name).extend services outputs = r.extend (service :: services) outputs := by
  simp [extend, skipService, hk]

lemma extend_addInterface {service : TypeInfo} (hk : service.kind = .interface)
    (o : InterfaceOutput) :
    (r.addInterface o).extend services outputs = r.extend (service :: services) (o :: outputs) := by
  simp only [extend, addInterface, List.length_cons, List.flatMap_cons, List.length_append,
    List.append_assoc, ne_eq, hk, not_true, decide_false, Bool.false_eq_true, not_false_eq_true,
    List.filter_cons_of_neg, mk.injEq, and_true]
  omega

end Report

namespace Pass

variable {σ : Type} {emit : TypeDef → σ → Except EmitError σ} {s : Synthesizer} {p q : Pass σ}

lemma emitAll_keeps {ds : List TypeDef} {e : Option SynthesisError}
    (h : p.emitAll emit ds = (e, q)) : q.session = p.session ∧ q.report = p.report := by
  induction ds generalizing p with
  | nil =>
    obtain ⟨-, rfl⟩ := Prod.mk.inj h
    exact ⟨rfl, rfl⟩
  | cons d rest ih =>
    rw [emitAll] at h
    split at h
    · obtain ⟨-, rfl⟩ := Prod.mk.inj h
      exact ⟨rfl, rfl⟩
    · have hk := ih h
      exact hk

lemma emitInterface_ok {o : InterfaceOutput} (h : p.emitInterface emit o = (none, q)) :
    q.session = p.session ∧ q.report = p.report.addInterface o := by
  rw [emitInterface] at h
  split at h
  · simp at h
  · split at h
    · simp at h
    · next he =>
      obtain ⟨hs, hr⟩ := emitAll_keeps he
      obtain ⟨-, rfl⟩ := Prod.mk.inj h
      exact ⟨hs, by rw [hr]⟩

lemma runService_ok {service : TypeInfo} (h : p.runService s emit service = (none, q)) :
    (service.kind ≠ .interface ∧ q.session = p.session ∧
        q.report = p.report.skipService service.name) ∨
      (service.kind = .interface ∧ ∃ o,
        s.interfaceOutput p.session service.name = (.ok o, q.session) ∧
        q.report = p.report.addInterface o) := by
  simp only [runService] at h
  split at h
  · next hk =>
    obtain ⟨-, rfl⟩ := Prod.mk.inj h
    exact .inl ⟨hk, rfl, rfl⟩
  · next hk =>
    split at h
    · simp at h
    · next o between ho =>
      obtain ⟨hs, hr⟩ := emitInterface_ok h
      exact .inr ⟨not_not.mp hk, o, hs ▸ ho, hr⟩

lemma runServices_report {services : List TypeInfo} (h : p.runServices s emit services = (none, q)) :
    ∃ outputs, s.outputs? p.session (services.filter (·.kind = .interface)) =
        some (outputs, q.session) ∧
      q.report = p.report.extend services outputs := by
  induction services generalizing p with
  | nil =>
    obtain ⟨-, rfl⟩ := Prod.mk.inj h
    exact ⟨[], rfl, Report.extend_nil.symm⟩
  | cons service rest ih =>
    rw [runServices] at h
    split at h
    · simp at h
    · next between hs =>
      obtain ⟨outputs, ho, hr⟩ := ih h
      rcases runService_ok hs with ⟨hk, hb, hbr⟩ | ⟨hk, o, hb, hbr⟩
      · refine ⟨outputs, ?_, ?_⟩
        · rw [List.filter_cons_of_neg (by simpa using hk), ← hb, ho]
        · rw [hr, hbr, Report.extend_skipService hk]
      · refine ⟨o :: outputs, ?_, ?_⟩
        · rw [List.filter_cons_of_pos (by simpa using hk)]
          simp only [Synthesizer.outputs?, hb, ho, Option.map_some]
        · rw [hr, hbr, Report.extend_addInterface hk]

end Pass

namespace Synthesizer

variable {s : Synthesizer} {session after : Session} {services : List TypeInfo}
variable {outputs : List InterfaceOutput}

section Settled

variable (hi : ∀ service ∈ services, service ∈ s.index.types)
variable (h : s.outputs? session services = some (outputs, after))
include hi h

lemma outputs?_settled :
    List.Forall₂ (fun service o => o.interface = service.name ∧ o.package = s.packageOf service ∧
      Settled (service.methods.map (·.name)) o.operations o.skipped) services outputs := by
  induction services generalizing session outputs with
  | nil =>
    simp only [outputs?, Option.some.injEq, Prod.mk.injEq] at h
    rw [← h.1]
    exact .nil
  | cons service rest ih =>
    obtain ⟨o, between, os, ho, hr, rfl⟩ := outputs?_cons_ok h
    rw [List.forall_mem_cons] at hi
    exact .cons (interfaceOutput_settled hi.1 ho) (ih hi.2 hr)

lemma outputs?_marked (i : Nat) (service : TypeInfo) (o : InterfaceOutput)
    (hs : services[i]? = some service) (ho : outputs[i]? = some o) :
    o.packageInfo =
      if s.packageOf service ∈ session.packages ++ (services.take i).map s.packageOf then none
      else some (.ofPackage (s.packageOf service) o.xmlNamespace) := by
  induction services generalizing session outputs i with
  | nil => simp at hs
  | cons first rest ih =>
    obtain ⟨p, between, os, hp, hr, rfl⟩ := outputs?_cons_ok h
    rw [List.forall_mem_cons] at hi
    have hpackage := (interfaceOutput_settled hi.1 hp).2.1
    have hmarks := interfaceOutput_marks hp
    rw [hpackage] at hmarks
    cases i with
    | zero =>
      obtain rfl : first = service := by simpa using hs
      obtain rfl : p = o := by simpa using ho
      rcases hmarks with ⟨hm, hn, -⟩ | ⟨hm, hn, -⟩
      · simp [hm, hn]
      · simp [hm, hn]
    | succ i =>
      rw [ih hi.2 hr i (by simpa using hs) (by simpa using ho)]
      congr 1
      rw [List.take_succ_cons, List.map_cons, eq_iff_iff, List.mem_append, List.mem_append,
        List.mem_cons]
      rcases hmarks with ⟨hm, -, hb⟩ | ⟨-, -, hb⟩
      · rw [hb]
        refine ⟨Or.imp_right .inr, ?_⟩
        rintro (hin | he | hin)
        · exact .inl hin
        · exact .inl (he ▸ hm)
        · exact .inr hin
      · rw [hb, List.mem_cons, or_assoc, or_left_comm]

lemma outputs?_markers :
    ((outputs.filterMap (·.packageInfo)).map (·.package)).Nodup ∧
      ∀ package, package ∈ (outputs.filterMap (·.packageInfo)).map (·.package) ↔
        package ∉ session.packages ∧ package ∈ services.map s.packageOf := by
  induction services generalizing session outputs with
  | nil =>
    simp only [outputs?, Option.some.injEq, Prod.mk.injEq] at h
    simp [← h.1]
  | cons service rest ih =>
    obtain ⟨o, between, os, ho, hr, rfl⟩ := outputs?_cons_ok h
    rw [List.forall_mem_cons] at hi
    have hpackage := (interfaceOutput_settled hi.1 ho).2.1
    obtain ⟨hd, hm⟩ := ih hi.2 hr
    rcases interfaceOutput_marks ho with ⟨hin, hn, hb⟩ | ⟨hin, hn, hb⟩
    · rw [hpackage] at hin
      rw [List.filterMap_cons_none hn]
      refine ⟨hd, fun package => ?_⟩
      rw [hm, hb, List.map_cons, List.mem_cons]
      refine and_congr_right fun hp => ⟨.inr, ?_⟩
      rintro (rfl | hp')
      · exact absurd hin hp
      · exact hp'
    · rw [hpackage] at hin hb
      rw [List.filterMap_cons_some hn, List.map_cons, List.nodup_cons]
      have ho' : (PackageInfo.ofPackage o.package o.xmlNamespace).package = s.packageOf service :=
        hpackage
      rw [ho']
      refine ⟨⟨fun hp => ?_, hd⟩, fun package => ?_⟩
      · exact ((hm _).mp hp).1 (hb ▸ List.mem_cons_self)
      · rw [List.mem_cons, hm, hb, List.map_cons, List.mem_cons, List.mem_cons, not_or]
        by_cases hp : package = s.packageOf service
        · simp [hp, hin]
        · simp [hp]

end Settled

lemma mem_outputs?_marker (h : s.outputs? session services = some (outputs, after))
    (o : InterfaceOutput) (ho : o ∈ outputs) (info : PackageInfo) (hi : o.packageInfo = some info) :
    info.name = info.package ++ ".package-info" := by
  obtain ⟨name, before, between, hs⟩ := mem_outputs? h o ho
  rcases interfaceOutput_marks hs with ⟨-, hn, -⟩ | ⟨-, hn, -⟩
  · rw [hi] at hn
    cases hn
  · rw [hi, Option.some.injEq] at hn
    rw [hn]
    rfl

structure Balanced (s : Synthesizer) (outputs : List InterfaceOutput) (report : Report)
    (emitted : List TypeDef) : Prop where
  services : report.interfaces + report.skippedServices.length = s.index.webServices.length
  interfaces : report.interfaces = s.interfaces.length
  skippedServices : report.skippedServices =
    (s.index.webServices.filter (·.kind ≠ .interface)).map (·.name)
  methods : List.Forall₂ (fun service o => o.interface = service.name ∧
    o.package = s.packageOf service ∧
    Settled (service.methods.map (·.name)) o.operations o.skipped) s.interfaces outputs
  operations : report.operations = (outputs.flatMap (·.operations)).length
  skippedOperations : report.skippedOperations =
    outputs.flatMap fun o => o.skipped.map (o.interface ++ "." ++ ·)
  wrappers : report.wrappers = 2 * report.operations
  faults : report.faults = (outputs.flatMap (·.faults)).length
  types : emitted = outputs.flatMap (·.typeDefs)
  typesEmitted : report.typesEmitted = emitted.length
  total : emitted.length =
    (s.interfaces.map s.packageOf).dedup.length + 6 * report.operations + report.faults
  marked : ∀ i service o, s.interfaces[i]? = some service → outputs[i]? = some o →
    o.packageInfo = (if s.packageOf service ∈ (s.interfaces.take i).map s.packageOf then none
      else some (.ofPackage (s.packageOf service) o.xmlNamespace)) ∧
    ∃ rest, o.typeDefs = o.packageInfo.toList.map (·.typeDef) ++ rest
  markedOnce : ∀ service ∈ s.interfaces,
    (TypeDef.namesOf emitted).count (s.packageOf service ++ ".package-info") = 1

lemma interfaces_subset (s : Synthesizer) : ∀ service ∈ s.interfaces, service ∈ s.index.types :=
  fun _ h => List.mem_of_mem_filter (List.mem_of_mem_filter h)

lemma typeDefs_length (outputs : List InterfaceOutput) :
    (outputs.flatMap (·.typeDefs)).length =
      (outputs.filterMap (·.packageInfo)).length + 6 * (outputs.flatMap (·.operations)).length +
        (outputs.flatMap (·.faults)).length := by
  induction outputs with
  | nil => rfl
  | cons o rest ih =>
    simp only [List.flatMap_cons, List.length_append, ih, o.typeDefs_length]
    cases hm : o.packageInfo with
    | none =>
      simp only [List.filterMap_cons, hm, Option.toList_none, List.length_nil]
      omega
    | some info =>
      simp only [List.filterMap_cons, hm, Option.toList_some, List.length_cons, List.length_nil]
      omega

section NewSession

variable (hi : ∀ service ∈ services, service ∈ s.index.types)
variable (h : s.outputs? {} services = some (outputs, after))
include hi h

lemma outputs?_packages : (outputs.filterMap (·.packageInfo)).length =
    (services.map s.packageOf).dedup.length := by
  obtain ⟨hd, hm⟩ := outputs?_markers hi h
  rw [← List.length_map (f := fun info : PackageInfo => info.package)]
  apply List.Perm.length_eq
  rw [List.perm_ext_iff_of_nodup hd (List.nodup_dedup _)]
  intro package
  rw [hm, List.mem_dedup]
  exact and_iff_right List.not_mem_nil

lemma outputs?_markedOnce (hd : (TypeDef.namesOf (outputs.flatMap (·.typeDefs))).Nodup) :
    ∀ service ∈ services, (TypeDef.namesOf (outputs.flatMap (·.typeDefs))).count
      (s.packageOf service ++ ".package-info") = 1 := by
  intro service hs
  have hm := ((outputs?_markers hi h).2 (s.packageOf service)).mpr
    ⟨List.not_mem_nil, List.mem_map_of_mem hs⟩
  obtain ⟨info, hinfo, hpackage⟩ := List.mem_map.mp hm
  obtain ⟨o, ho, hoi⟩ := List.mem_filterMap.mp hinfo
  apply List.count_eq_one_of_mem hd
  rw [← hpackage, ← mem_outputs?_marker h o ho info hoi]
  exact List.mem_map_of_mem (List.mem_flatMap.mpr ⟨o, ho, o.marker_mem hoi⟩)

end NewSession

section Pass

variable {σ : Type} {emit : TypeDef → σ → Except EmitError σ} {sink : σ} {registrar : Registrar}
variable {report : Report} {p : Pass σ}

lemma runOn_report (hrun : s.runOn session emit sink registrar = (.ok report, p)) :
    ∃ outputs, s.outputs? {} s.interfaces = some (outputs, p.session) ∧
      report = ({} : Report).extend s.index.webServices outputs := by
  rw [runOn] at hrun
  split at hrun
  · simp at hrun
  · next q hq =>
    obtain ⟨hr, rfl⟩ := Prod.mk.inj hrun
    obtain ⟨outputs, hout, hreport⟩ := Pass.runServices_report hq
    exact ⟨outputs, hout, (Except.ok.inj hr).symm.trans hreport⟩

theorem runOn_balances {types : σ → List TypeDef} (ha : Appends emit types) (hs : types sink = [])
    (hrun : s.runOn session emit sink registrar = (.ok report, p)) :
    ∃ outputs, s.outputs? {} s.interfaces = some (outputs, p.session) ∧
      s.Balanced outputs report (types p.sink) := by
  obtain ⟨outputs, hout, rfl⟩ := runOn_report hrun
  have hon := runOn_handsOn (s := s) ha session hs registrar
  rw [hrun] at hon
  obtain ⟨outputs', hout', htypes, -, hnodup⟩ := hon
  obtain rfl : outputs' = outputs := (Prod.mk.inj (Option.some.inj (hout'.symm.trans hout))).1
  rw [List.nil_append] at htypes
  rw [htypes] at hnodup ⊢
  have hsub := s.interfaces_subset
  have hsettled := outputs?_settled hsub hout
  have hlength := hsettled.length_eq
  refine ⟨outputs', hout, ⟨?_, ?_, rfl, hsettled, ?_, rfl, ?_, ?_, rfl, ?_, ?_, ?_, ?_⟩⟩
  · have hc := List.length_eq_length_filter_add (l := s.index.webServices) (·.kind = .interface)
    simp [Report.extend, ← hlength, interfaces, hc]
  · simp [Report.extend, hlength]
  · simp [Report.extend]
  · simp [Report.extend, Nat.mul_comm]
  · simp [Report.extend]
  · simp [Report.extend]
  · rw [typeDefs_length, outputs?_packages hsub hout]
    simp [Report.extend]
  · intro i service o hi ho
    refine ⟨outputs?_marked hsub hout i service o hi ho,
      o.operations.flatMap (·.typeDefs) ++ o.faults.map (·.typeDef), ?_⟩
    rw [InterfaceOutput.typeDefs, List.append_assoc]
  · exact outputs?_markedOnce hsub hout hnodup

theorem runOn_balances_larder :
    (Larder.synthesizer.runOn {} Manifest.emit {} {}).1 = .ok Larder.report ∧
      ∃ outputs, Larder.synthesizer.Balanced outputs Larder.report
        (Larder.synthesizer.runOn {} Manifest.emit {} {}).2.sink.types := by
  obtain ⟨outputs, -, hb⟩ := runOn_balances Manifest.appends rfl Larder.runOn_eq
  exact ⟨congrArg Prod.fst Larder.runOn_eq, outputs, hb⟩

end Pass

end Synthesizer

end SoapWrap
