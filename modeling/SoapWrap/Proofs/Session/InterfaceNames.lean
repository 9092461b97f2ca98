import SoapWrap.Proofs.Session.Supply
import SoapWrap.Proofs.Synthesis.InterfaceSteps

namespace SoapWrap

def Bundle.names (bs : List Bundle) : Names where
  wrappers := bs.map (·.wrapper.qualifiedName)
  adapters := bs.map (·.adapter.name)

def Synthesizer.Contribution.names (c : Synthesizer.Contribution) : Names :=
  ⟨[], [], c.faults.map (·.faultName), []⟩ ++ Bundle.names (c.output.toList.flatMap (·.bundles))

def InterfaceOutput.names (o : InterfaceOutput) : Names :=
  ⟨[], [], o.faults.map (·.faultName), o.packageInfo.toList.map (·.package)⟩ ++
    Bundle.names o.bundles

lemma Fault.ofExceptions_handsOut (package : String) (settings : Settings) (ts : List Thrown)
    (faults : FaultRegistry) :
    HandsOut faults.claimed ((ofExceptions package settings faults ts).1.map (·.faultName))
      (ofExceptions package settings faults ts).2.claimed := by
  induction ts generalizing faults with
  | nil => exact .refl _
  | cons t rest ih =>
    have hc := faults.claim_handsOut (t.resolvedName settings)
    have ht := hc.trans (ih (faults.claim (t.resolvedName settings)).2)
    simp only [ofExceptions]
    cases hn : (faults.claim (t.resolvedName settings)).1 <;> simpa [hn, ofThrown] using ht

namespace Synthesizer

variable {s : Synthesizer} {scope : Scope} {op : Operation} {session session' : Session}
variable {names names' : NameRegistry}

lemma bundle_handsOut {w : Wrapper} {b : Bundle} (h : s.bundle names w = .ok (b, names')) :
    HandsOut names.taken [b.adapter.name] names'.taken := by
  obtain ⟨-, rfl, ha⟩ := Adapter.ofWrapper_ok (bundle_ok h).2.2
  rw [ha]
  exact names.allocate_handsOut w.qualifiedName s.settings.adapterSuffix

lemma operationOutput_ok_handsOut {o : OperationOutput}
    (h : s.operationOutput scope names op = (.ok o, names')) :
    HandsOut names.taken (o.bundles.map (·.adapter.name)) names'.taken := by
  obtain ⟨-, -, -, between, hq, hr⟩ := operationOutput_ok h
  exact (bundle_handsOut hq).trans (bundle_handsOut hr)

lemma operationOutput_error_handsOut {e : SynthesisError}
    (h : s.operationOutput scope names op = (.error e, names')) :
    HandsOut names.taken [] names'.taken := by
  rw [operationOutput] at h
  split at h
  · simp only [Prod.mk.injEq] at h
    exact h.2 ▸ .refl _
  · simp only [Prod.mk.injEq] at h
    exact h.2 ▸ .refl _
  · split at h
    · simp only [Prod.mk.injEq] at h
      exact h.2 ▸ .refl _
    · next hbq =>
      split at h
      · simp only [Prod.mk.injEq] at h
        exact h.2 ▸ (bundle_handsOut hbq).withheld
      · simp at h

lemma contribute_frame {r : Except SynthesisError Contribution}
    (h : s.contribute scope session op = (r, session')) :
    session'.packages = session.packages ∧
      session'.faults = (s.newFaults scope session op).2 := by
  cases contributes h with
  | skipped => exact ⟨rfl, rfl⟩
  | requestTaken => exact ⟨rfl, rfl⟩
  | responseTaken hq =>
    obtain ⟨-, rfl⟩ := Session.claimWrapper_ok hq
    exact ⟨rfl, rfl⟩
  | failed hq hr =>
    obtain ⟨-, rfl⟩ := Session.claimWrapper_ok hq
    obtain ⟨-, rfl⟩ := Session.claimWrapper_ok hr
    exact ⟨rfl, rfl⟩
  | made hq hr =>
    obtain ⟨-, rfl⟩ := Session.claimWrapper_ok hq
    obtain ⟨-, rfl⟩ := Session.claimWrapper_ok hr
    exact ⟨rfl, rfl⟩

lemma contribute_issues (hp : scope.package ≠ "")
    {r : Except SynthesisError Contribution} (h : s.contribute scope session op = (r, session')) :
    session.Issues (.ofResult Contribution.names r) session' := by
  have hf : session.Issues { faults := (s.newFaults scope session op).1.map (·.faultName) }
      (s.withFaults scope session op) :=
    .ofFaults (Fault.ofExceptions_handsOut scope.package s.settings op.exceptions session.faults)
  cases contributes h with
  | skipped =>
    simpa [Names.ofResult, Contribution.names, Bundle.names, Names.append_eq] using hf
  | requestTaken _ => exact hf.withheld
  | responseTaken hq _ => exact hf.trans_withheld (Session.claimWrapper_issues hq)
  | failed hq hr ho =>
    have hfq := hf.trans (Session.claimWrapper_issues hq)
    have hfqr := hfq.trans (Session.claimWrapper_issues hr)
    exact hfqr.trans_withheld (.ofNames (operationOutput_error_handsOut ho))
  | made hq hr ho =>
    have hfq := hf.trans (Session.claimWrapper_issues hq)
    have hfqr := hfq.trans (Session.claimWrapper_issues hr)
    have hn := hfqr.trans (.ofNames (operationOutput_ok_handsOut ho))
    have hw := operationOutput_wrapperNames hp ho
    simpa [Names.ofResult, Contribution.names, Bundle.names, Names.append_eq, hw] using hn

def contributedNames (cs : List (String × Contribution)) : Names :=
  .join (cs.map fun c => c.2.names)

lemma contributeAll_issues (hp : scope.package ≠ "") (ops : List Operation)
    {r : Except SynthesisError (List (String × Contribution))}
    (h : s.contributeAll scope session ops = (r, session')) :
    session.Issues (.ofResult contributedNames r) session' := by
  induction ops generalizing session r with
  | nil =>
    obtain ⟨rfl, rfl⟩ := Prod.mk.inj h
    exact .refl session
  | cons op rest ih =>
    rw [contributeAll] at h
    split at h
    · next ho =>
      obtain ⟨rfl, rfl⟩ := Prod.mk.inj h
      exact (contribute_issues hp ho).withheld
    · next c between ho =>
      have hc := contribute_issues hp ho
      split at h
      · next hr =>
        obtain ⟨rfl, rfl⟩ := Prod.mk.inj h
        exact hc.trans_withheld (ih hr)
      · next cs after hr =>
        obtain ⟨rfl, rfl⟩ := Prod.mk.inj h
        exact hc.trans (ih hr)

lemma markPackage_issues (package xmlNamespace : String) :
    session.Issues
      { packages := (markPackage session package xmlNamespace).1.toList.map (·.package) }
      (markPackage session package xmlNamespace).2 := by
  rw [markPackage]
  split
  · exact .refl session
  · next hn => exact ⟨.refl _, .refl _, .refl _, .cons hn⟩

lemma outputNames {cs : List (String × Contribution)} {o : InterfaceOutput}
    (ho : o.operations = cs.filterMap (·.2.output)) (hf : o.faults = cs.flatMap (·.2.faults)) :
    o.names = { packages := o.packageInfo.toList.map (·.package) } ++ contributedNames cs := by
  simp [InterfaceOutput.names, InterfaceOutput.bundles, contributedNames, Contribution.names,
    Bundle.names, Names.append_eq, Names.join, ho, hf, List.filterMap_eq_flatMap_toList,
    List.flatMap_map, List.map_flatMap, List.flatMap_assoc]

lemma interfaceOutput_issues {name : String} {r : Except SynthesisError InterfaceOutput}
    (hp : s.settings.packageSuffix ≠ "")
    (h : s.interfaceOutput session name = (r, session')) :
    session.Issues (.ofResult InterfaceOutput.names r) session' := by
  cases r with
  | ok o =>
    obtain ⟨service, cs, -, -, hg, -, hi, hc, ho, hf, -⟩ := interfaceOutput_ok h
    have hpo : o.package ≠ "" := hg ▸ Settings.generatedPackage_ne_empty hp _
    have hm : session.Issues _ _ := markPackage_issues o.package o.xmlNamespace
    rw [← hi] at hm
    simpa only [Names.ofResult, outputNames ho hf] using hm.trans (contributeAll_issues hpo _ hc)
  | error e =>
    rw [interfaceOutput] at h
    split at h
    · obtain ⟨-, rfl⟩ := Prod.mk.inj h
      exact .refl session
    · next service hx =>
      dsimp only at h
      split at h
      · next hc =>
        obtain ⟨-, rfl⟩ := Prod.mk.inj h
        have hg := Settings.generatedPackage_ne_empty hp service.package
        exact (markPackage_issues _ _).trans_withheld (contributeAll_issues hg _ hc)
      · simp at h

end Synthesizer

end SoapWrap
