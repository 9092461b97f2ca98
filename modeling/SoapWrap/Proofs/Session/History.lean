import SoapWrap.Proofs.Session.InterfaceNames

namespace SoapWrap

namespace Session

inductive Action where
  | synthesize (s : Synthesizer) (interface : String)
  | allocate (base suffix : String)
  | claim (fault : String)

structure History where
  outputs : List InterfaceOutput := []
  allocated : List String := []
  claimed : List String := []

instance : Append History where
  append h k := ⟨h.outputs ++ k.outputs, h.allocated ++ k.allocated, h.claimed ++ k.claimed⟩

def perform (session : Session) : Action → History × Session
  | .synthesize s interface =>
    match s.interfaceOutput session interface with
    | (.ok o, session) => ({ outputs := [o] }, session)
    | (.error _, session) => ({}, session)
  | .allocate base suffix =>
    let (name, names) := session.names.allocate base suffix
    ({ allocated := [name] }, { session with names })
  | .claim fault =>
    let (isNew, faults) := session.faults.claim fault
    ({ claimed := if isNew then [fault] else [] }, { session with faults })

def performAll (session : Session) : List Action → History × Session
  | [] => ({}, session)
  | action :: rest =>
    let (h, session) := session.perform action
    let (k, session) := session.performAll rest
    (h ++ k, session)

def History.names (h : History) : Names :=
  .join (h.outputs.map (·.names)) ++ { adapters := h.allocated, faults := h.claimed }

lemma History.names_append {a b : Session} {h k : History} (i : a.Issues (h.names ++ k.names) b) :
    a.Issues (h ++ k).names b := by
  have hp (v w x y : List String) : ((v ++ x) ++ (w ++ y)).Subperm ((v ++ w) ++ (x ++ y)) := by
    refine List.Perm.subperm ?_
    simp only [List.append_assoc]
    exact (List.perm_append_comm_assoc x w y).append_left v
  have hs (x y : List String) : ((x ++ y) ++ []).Subperm ((x ++ []) ++ (y ++ [])) := by
    simp only [List.append_nil, List.Subperm.refl]
  have hj : (h ++ k).names =
      .join (h.outputs.map (·.names) ++ k.outputs.map (·.names)) ++
        { adapters := h.allocated ++ k.allocated, faults := h.claimed ++ k.claimed } := by
    rw [← List.map_append]
    rfl
  rw [hj]
  simp only [names, Names.append_eq, Names.join, List.flatMap_append] at i ⊢
  exact ⟨i.wrappers.mono (hs ..), i.adapters.mono (hp ..), i.faults.mono (hp ..),
    i.packages.mono (hs ..)⟩

variable {session : Session}

lemma perform_issues (action : Action)
    (hp : ∀ s interface, action = .synthesize s interface → s.settings.packageSuffix ≠ "") :
    session.Issues (session.perform action).1.names (session.perform action).2 := by
  cases action with
  | synthesize s interface =>
    rcases he : s.interfaceOutput session interface with ⟨r, after⟩
    have hi := Synthesizer.interfaceOutput_issues (hp s interface rfl) he
    cases r with
    | ok o =>
      simpa [perform, he, History.names, Names.ofResult, Names.join, Names.append_eq] using hi
    | error e =>
      simpa [perform, he, History.names, Names.ofResult, Names.join, Names.append_eq] using hi
  | allocate base suffix => exact .ofNames (session.names.allocate_handsOut base suffix)
  | claim fault => exact .ofFaults (session.faults.claim_handsOut fault)

lemma performAll_issues (actions : List Action)
    (hp : ∀ s interface, .synthesize s interface ∈ actions → s.settings.packageSuffix ≠ "") :
    session.Issues (session.performAll actions).1.names (session.performAll actions).2 := by
  induction actions generalizing session with
  | nil => exact .refl session
  | cons action rest ih =>
    have ha : session.Issues (session.perform action).1.names (session.perform action).2 :=
      perform_issues action fun s interface he => hp s interface (by simp [he])
    have hr : (session.perform action).2.Issues _ _ := ih fun s interface hm =>
      hp s interface (List.mem_cons_of_mem action hm)
    exact History.names_append (ha.trans hr)

theorem outputs_share_no_name (session : Session) (actions : List Action)
    (hp : ∀ s interface, .synthesize s interface ∈ actions → s.settings.packageSuffix ≠ "") :
    let h := (session.performAll actions).1
    (h.outputs.flatMap fun o => o.bundles.map (·.wrapper.qualifiedName)).Nodup ∧
      (h.outputs.flatMap (fun o => o.bundles.map (·.adapter.name)) ++ h.allocated).Nodup ∧
      (h.outputs.flatMap (fun o => o.faults.map (·.faultName)) ++ h.claimed).Nodup ∧
      (h.outputs.filterMap fun o => o.packageInfo.map (·.package)).Nodup := by
  intro h
  have hi : session.Issues h.names _ := performAll_issues actions hp
  have hw := hi.wrappers.distinct
  have ha := hi.adapters.distinct
  have hf := hi.faults.distinct
  have hk := hi.packages.distinct
  simp only [History.names, Names.append_eq, Names.join, InterfaceOutput.names, Bundle.names,
    List.flatMap_map, List.append_nil, List.nil_append] at hw ha hf hk
  refine ⟨hw, ha, hf, ?_⟩
  rw [List.filterMap_eq_flatMap_toList]
  simpa only [Option.toList_map] using hk

def pantryActions : List Action := [
  .allocate "org.acme.jaxws_asm.Fill" "_Adapter",
  .claim "Spoiled",
  .synthesize Pantry.synthesizer "org.acme.Pantry",
  .synthesize Pantry.synthesizer "org.acme.Cellar",
  .synthesize Pantry.synthesizer "org.acme.Pantry"]

theorem outputs_share_no_name_pantry :
    let h := (performAll {} pantryActions).1
    h.outputs.map (·.bundles.length) = [2, 0] ∧
      (h.outputs.flatMap (fun o => o.bundles.map (·.adapter.name)) ++ h.allocated).Nodup := by
  have hp : ∀ s interface, .synthesize s interface ∈ pantryActions →
      s.settings.packageSuffix ≠ "" := by
    intro s interface hm
    simp only [pantryActions, List.mem_cons, Action.synthesize.injEq, reduceCtorEq, false_or,
      List.not_mem_nil, or_false] at hm
    rcases hm with ⟨rfl, -⟩ | ⟨rfl, -⟩ | ⟨rfl, -⟩ <;> decide
  exact ⟨by decide +kernel, (outputs_share_no_name {} pantryActions hp).2.1⟩

end Session

end SoapWrap
