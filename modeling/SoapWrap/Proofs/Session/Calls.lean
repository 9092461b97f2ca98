import SoapWrap.Proofs.Synthesis.DeclaredFaults

/-! Calls on one session, failing ones included: a package marker or fault that is new to a call is
in the output of that call, and in no output at all if the call fails. -/

namespace SoapWrap

structure Synthesizer.Call (s : Synthesizer) where
  interface : String
  before : Session

namespace Synthesizer

variable {s : Synthesizer}

namespace Call

def answer (c : s.Call) : Except SynthesisError InterfaceOutput × Session :=
  s.interfaceOutput c.before c.interface

def output? (c : s.Call) : Option InterfaceOutput := c.answer.1.toOption

def after (c : s.Call) : Session := c.answer.2

lemma interfaceOutput_of_some {c : s.Call} {o : InterfaceOutput} (h : c.output? = some o) :
    s.interfaceOutput c.before c.interface = (.ok o, c.after) := by
  rcases hr : s.interfaceOutput c.before c.interface with ⟨r, after⟩
  cases r with
  | ok o' =>
    simp only [output?, answer, hr, Except.toOption, Option.some.injEq] at h
    rw [h, Call.after, answer, hr]
  | error e => simp [output?, answer, hr, Except.toOption] at h

end Call

def calls (s : Synthesizer) (session : Session) : List String → List s.Call
  | [] => []
  | interface :: rest =>
    let c : s.Call := ⟨interface, session⟩
    c :: s.calls c.after rest

def outputs (cs : List s.Call) : List InterfaceOutput := cs.filterMap (·.output?)

end Synthesizer

structure Registry where
  taken : Session → List String
  given : InterfaceOutput → List String

namespace Registry

def packages : Registry where
  taken session := session.packages
  given o := o.packageInfo.toList.map (·.package)

def faults : Registry where
  taken session := session.faults.claimed
  given o := o.faults.map (·.faultName)

variable {s : Synthesizer} {r : Registry} {session : Session} {interfaces : List String}
variable {name : String} {c : s.Call} {cs : List s.Call}

def Takes (r : Registry) (c : s.Call) (name : String) : Prop :=
  name ∉ r.taken c.before ∧ name ∈ r.taken c.after

instance : Decidable (r.Takes c name) := inferInstanceAs (Decidable (_ ∧ _))

def Loses (r : Registry) (c : s.Call) (name : String) : Prop := c.output? = none ∧ r.Takes c name

instance : Decidable (r.Loses c name) := inferInstanceAs (Decidable (_ ∧ _))

structure Sound (r : Registry) (s : Synthesizer) : Prop where
  kept (c : s.Call) : r.taken c.before ⊆ r.taken c.after
  distinct (c : s.Call) (o : InterfaceOutput) : c.output? = some o → (r.given o).Nodup
  given_iff (c : s.Call) (o : InterfaceOutput) :
    c.output? = some o → ∀ name, name ∈ r.given o ↔ r.Takes c name

namespace Sound

lemma not_takes (hr : r.Sound s) (h : name ∈ r.taken session) :
    ∀ c ∈ s.calls session interfaces, ¬ r.Takes c name := by
  induction interfaces generalizing session with
  | nil => exact fun _ hc => absurd hc List.not_mem_nil
  | cons interface rest ih =>
    rw [Synthesizer.calls, List.forall_mem_cons]
    exact ⟨fun ht => ht.1 h, ih (hr.kept ⟨interface, session⟩ h)⟩

lemma not_mem_given (hr : r.Sound s) (h : ∀ c ∈ cs, ¬ r.Takes c name) :
    name ∉ (Synthesizer.outputs cs).flatMap r.given := by
  intro hname
  obtain ⟨o, ho, hgiven⟩ := List.mem_flatMap.mp hname
  obtain ⟨c, hc, hco⟩ := List.mem_filterMap.mp ho
  exact h c hc ((hr.given_iff c o hco name).mp hgiven)

lemma count_cons (hr : r.Sound s) :
    ((Synthesizer.outputs (c :: cs)).flatMap r.given).count name =
      (if c.output?.isSome ∧ r.Takes c name then 1 else 0) +
        ((Synthesizer.outputs cs).flatMap r.given).count name := by
  rw [Synthesizer.outputs]
  cases ho : c.output? with
  | none =>
    rw [List.filterMap_cons_none ho, if_neg (by simp), Nat.zero_add]
    rfl
  | some o =>
    rw [List.filterMap_cons_some ho, List.flatMap_cons, List.count_append,
      (hr.distinct c o ho).count]
    simp only [hr.given_iff c o ho name, Option.isSome_some, true_and]
    rfl

lemma count_given (hr : r.Sound s) (hfree : name ∉ r.taken session)
    (h : ∃ c ∈ s.calls session interfaces, name ∈ r.taken c.after) :
    ((Synthesizer.outputs (s.calls session interfaces)).flatMap r.given).count name =
      if ∃ c ∈ s.calls session interfaces, r.Loses c name then 0 else 1 := by
  induction interfaces generalizing session with
  | nil => exact absurd h (by simp [Synthesizer.calls])
  | cons interface rest ih =>
    let c : s.Call := ⟨interface, session⟩
    have hcalls : s.calls session (interface :: rest) = c :: s.calls c.after rest := rfl
    rw [hcalls] at h ⊢
    rw [hr.count_cons]
    simp only [List.exists_mem_cons_iff] at h ⊢
    by_cases hname : name ∈ r.taken c.after
    · -- The name is new to this call, and hence to no later one.
      have htakes : r.Takes c name := ⟨hfree, hname⟩
      have hlater : ∀ d ∈ s.calls c.after rest, ¬ r.Takes d name := hr.not_takes hname
      have hlost : ¬ ∃ d ∈ s.calls c.after rest, r.Loses d name :=
        fun ⟨d, hd, hl⟩ => hlater d hd hl.2
      rw [List.count_eq_zero.mpr (hr.not_mem_given hlater)]
      cases ho : c.output? with
      | none => rw [if_neg (by simp), if_pos (.inl ⟨ho, htakes⟩)]
      | some o =>
        have hc : ¬ r.Loses c name := by simp [Loses, ho]
        rw [if_pos ⟨rfl, htakes⟩, if_neg (not_or.mpr ⟨hc, hlost⟩)]
    · have hc : ¬ r.Takes c name := fun ht => hname ht.2
      have hlost : ¬ r.Loses c name := fun hl => hc hl.2
      rw [ih hname (h.resolve_left hname)]
      simp only [hc, hlost, and_false, if_false, Nat.zero_add, false_or]

end Sound

end Registry

namespace Synthesizer

variable {s : Synthesizer} {scope : Scope} {session session' : Session}

-- What a session issues would tell as much, but only of packages with a name.
lemma contributeAll_keeps {ops : List Operation}
    {r : Except SynthesisError (List (String × Contribution))}
    (h : s.contributeAll scope session ops = (r, session')) :
    session'.packages = session.packages ∧ session.faults.claimed ⊆ session'.faults.claimed := by
  induction ops generalizing session r with
  | nil =>
    obtain ⟨-, rfl⟩ := Prod.mk.inj h
    exact ⟨rfl, List.Subset.refl _⟩
  | cons op rest ih =>
    have hstep {r} {between : Session} (ho : s.contribute scope session op = (r, between)) :
        between.packages = session.packages ∧
          session.faults.claimed ⊆ between.faults.claimed := by
      obtain ⟨hp, hf⟩ := contribute_frame ho
      refine ⟨hp, ?_⟩
      rw [hf]
      exact (Fault.ofExceptions_handsOut scope.package s.settings op.exceptions _).kept
    rw [contributeAll] at h
    split at h
    · next ho =>
      obtain ⟨-, rfl⟩ := Prod.mk.inj h
      exact hstep ho
    · next ho =>
      obtain ⟨hp, hf⟩ := hstep ho
      split at h
      all_goals
        next hr =>
        obtain ⟨-, rfl⟩ := Prod.mk.inj h
        obtain ⟨hps, hfs⟩ := ih hr
        exact ⟨hps.trans hp, List.Subset.trans hf hfs⟩

lemma interfaceOutput_keeps {name : String} {r : Except SynthesisError InterfaceOutput}
    (h : s.interfaceOutput session name = (r, session')) :
    session.packages ⊆ session'.packages ∧ session.faults.claimed ⊆ session'.faults.claimed := by
  rw [interfaceOutput] at h
  split at h
  · obtain ⟨-, rfl⟩ := Prod.mk.inj h
    exact ⟨List.Subset.refl _, List.Subset.refl _⟩
  · next service _ =>
    have hm : session.Issues _ _ := markPackage_issues
      (s.settings.generatedPackage service.package) service.effectiveNamespace
    dsimp only at h
    split at h
    all_goals
      next hc =>
      obtain ⟨-, rfl⟩ := Prod.mk.inj h
      obtain ⟨hp, hf⟩ := contributeAll_keeps hc
      exact ⟨hp ▸ hm.packages.kept, List.Subset.trans hm.faults.kept hf⟩

section Outputs

variable {name : String} {o : InterfaceOutput}

lemma mem_markers_iff (h : s.interfaceOutput session name = (.ok o, session')) {package : String} :
    package ∈ o.packageInfo.toList.map (·.package) ↔
      package ∉ session.packages ∧ package ∈ session'.packages := by
  rcases interfaceOutput_marks h with ⟨-, hi, hp⟩ | ⟨hn, hi, hp⟩
  · simp [hi, hp]
  · have hmarker : package ∈ o.packageInfo.toList.map (·.package) ↔ package = o.package := by
      simp [hi, PackageInfo.ofPackage]
    rw [hmarker, hp, List.mem_cons]
    constructor
    · rintro rfl
      exact ⟨hn, .inl rfl⟩
    · rintro ⟨hfree, htaken⟩
      exact htaken.resolve_right hfree

lemma mem_faultNames_iff (h : s.interfaceOutput session name = (.ok o, session'))
    {fault : String} :
    fault ∈ o.faults.map (·.faultName) ↔
      fault ∉ session.faults.claimed ∧ fault ∈ session'.faults.claimed := by
  obtain ⟨service, cs, -, -, -, -, -, hc, -, hf, -⟩ := interfaceOutput_ok h
  have hfaults := contributeAll_faults hc
  rw [← hf, markPackage_faults, FaultRegistry.ofExceptions_eq_claimAll] at hfaults
  obtain ⟨hgiven, htaken⟩ := Prod.mk.inj hfaults
  rw [hgiven, htaken]
  exact FaultRegistry.mem_claimAll_iff

lemma faultNames_nodup (h : s.interfaceOutput session name = (.ok o, session')) :
    (o.faults.map (·.faultName)).Nodup := by
  obtain ⟨service, -, hf⟩ := interfaceOutput_faults h
  rw [hf]
  exact (Fault.ofExceptions_handsOut o.package s.settings _ session.faults).distinct

end Outputs

end Synthesizer

namespace Registry

variable {s : Synthesizer}

lemma packages_sound : packages.Sound s where
  kept c := (Synthesizer.interfaceOutput_keeps (r := c.answer.1) rfl).1
  distinct c o _ := by
    cases hi : o.packageInfo <;> simp [packages, hi]
  given_iff _ _ ho _ := Synthesizer.mem_markers_iff (Synthesizer.Call.interfaceOutput_of_some ho)

lemma faults_sound : faults.Sound s where
  kept c := (Synthesizer.interfaceOutput_keeps (r := c.answer.1) rfl).2
  distinct _ _ ho := Synthesizer.faultNames_nodup (Synthesizer.Call.interfaceOutput_of_some ho)
  given_iff _ _ ho _ := Synthesizer.mem_faultNames_iff (Synthesizer.Call.interfaceOutput_of_some ho)

end Registry

namespace Synthesizer

theorem calls_deliver_once_unless_lost (s : Synthesizer) (interfaces : List String) :
    let calls := s.calls {} interfaces
    let markers := (outputs calls).flatMap Registry.packages.given
    let faultNames := (outputs calls).flatMap Registry.faults.given
    ∀ o ∈ outputs calls,
      (markers.count o.package =
        if ∃ c ∈ calls, Registry.packages.Loses c o.package then 0 else 1) ∧
      ∀ service ∈ s.index.types, service.name = o.interface → ∀ f ∈ s.declaredFaults service,
        faultNames.count f.faultName =
          if ∃ c ∈ calls, Registry.faults.Loses c f.faultName then 0 else 1 := by
  intro calls markers faultNames o ho
  obtain ⟨c, hc, hco⟩ := List.mem_filterMap.mp ho
  have h := Call.interfaceOutput_of_some hco
  constructor
  · refine Registry.packages_sound.count_given List.not_mem_nil ⟨c, hc, ?_⟩
    change o.package ∈ c.after.packages
    rcases interfaceOutput_marks h with ⟨hin, -, hp⟩ | ⟨-, -, hp⟩
    · rwa [hp]
    · rw [hp]
      exact List.mem_cons_self
  · intro service hservice hname f hf
    refine Registry.faults_sound.count_given List.not_mem_nil ⟨c, hc, ?_⟩
    change f.faultName ∈ c.after.faults.claimed
    have hinterface : o.interface = c.interface := by
      obtain ⟨-, -, -, hinterface, -⟩ := interfaceOutput_ok h
      exact hinterface
    rw [← hinterface, ← hname] at h
    have hclaims := congrArg Prod.snd (interfaceOutput_claims hservice h)
    dsimp only at hclaims
    rw [hclaims]
    exact FaultRegistry.mem_claimed_claimAll.mpr (.inr (List.mem_map_of_mem hf))

end Synthesizer

namespace Gate

/-- A response wrapper of the gate has the name of a request wrapper, so that the gate fails after
its package and its fault are new to the session; the door is in the same package and declares the
same fault. -/
def index : Index where
  types := [
    { name := "org.acme.Gate"
      kind := .interface
      tags := [.ofName TagName.webService]
      methods := [
        { name := "open", throws := [.named "org.acme.Jam"] },
        { name := "openResponse" }] },
    { name := "org.acme.Door"
      kind := .interface
      tags := [.ofName TagName.webService]
      methods := [{ name := "close", throws := [.named "org.acme.Jam"] }] },
    { name := "com.shop.Till"
      kind := .interface
      tags := [.ofName TagName.webService]
      methods := [{ name := "ring", throws := [.named "com.shop.Broken"] }] },
    { name := "org.acme.Jam", kind := .exception },
    { name := "com.shop.Broken", kind := .exception }]
  built := rfl

def synthesizer : Synthesizer := .ofIndex index {}

def interfaces : List String := ["org.acme.Gate", "org.acme.Door", "com.shop.Till"]

theorem calls_deliver_once_unless_lost_gate :
    let outputs := Synthesizer.outputs (synthesizer.calls {} interfaces)
    (outputs.flatMap Registry.packages.given).count "com.shop.jaxws_asm" = 1 ∧
      (outputs.flatMap Registry.faults.given).count "Broken_Exception" = 1 := by
  intro outputs
  have hout : ∃ o ∈ outputs, o.interface = "com.shop.Till" ∧ o.package = "com.shop.jaxws_asm" := by
    decide +kernel
  have hservice : ∃ service ∈ index.types, service.name = "com.shop.Till" ∧
      ∃ f ∈ synthesizer.declaredFaults service, f.faultName = "Broken_Exception" := by
    decide +kernel
  obtain ⟨o, ho, hname, hpackage⟩ := hout
  obtain ⟨service, hmem, hs, f, hf, hfaultName⟩ := hservice
  obtain ⟨hmarker, hfaults⟩ := synthesizer.calls_deliver_once_unless_lost interfaces o ho
  have hfault := hfaults service hmem (hs.trans hname.symm) f hf
  rw [hpackage, if_neg (by decide +kernel)] at hmarker
  rw [hfaultName, if_neg (by decide +kernel)] at hfault
  exact ⟨hmarker, hfault⟩

theorem failed_gate_keeps_marker_and_fault :
    let outputs := Synthesizer.outputs
      (synthesizer.calls {} ["org.acme.Gate", "org.acme.Door"])
    let alone := Synthesizer.outputs (synthesizer.calls {} ["org.acme.Door"])
    (outputs.map fun o => (o.interface, o.package)) = [("org.acme.Door", "org.acme.jaxws_asm")] ∧
      outputs.flatMap Registry.packages.given = [] ∧
      outputs.flatMap Registry.faults.given = [] ∧
      alone.flatMap Registry.packages.given = ["org.acme.jaxws_asm"] ∧
      alone.flatMap Registry.faults.given = ["Jam_Exception"] := by
  decide +kernel

end Gate

end SoapWrap
