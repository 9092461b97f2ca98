import SoapWrap.Proofs.Session.Calls
import SoapWrap.Proofs.Session.FirstRun

/-! Where names are allocated by calls alone, every adapter has the first name for its wrapper: a name
that is taken is the first one for a wrapper that is claimed, also by a call that fails. -/

namespace SoapWrap.Synthesizer

variable {s : Synthesizer} {scope : Scope} {op : Operation} {session session' : Session}
variable {names names' : NameRegistry}

def NamedFirst (s : Synthesizer) (bundles : List Bundle) : Prop :=
  ∀ b ∈ bundles, b.adapter.name = s.firstAdapter b.wrapper.qualifiedName

lemma bundle_namedFirst {w : Wrapper} {b : Bundle}
    (hfree : s.firstAdapter w.qualifiedName ∉ names.taken) (h : s.bundle names w = .ok (b, names')) :
    b.adapter.name = s.firstAdapter b.wrapper.qualifiedName ∧
      names'.taken = s.firstAdapter w.qualifiedName :: names.taken := by
  obtain ⟨hw, -, hb⟩ := bundle_ok h
  obtain ⟨-, hnames, hadapter⟩ := Adapter.ofWrapper_ok hb
  rw [names.allocate_of_free w.qualifiedName s.settings.adapterSuffix hfree] at hnames hadapter
  rw [hnames, hadapter, hw]
  exact ⟨rfl, rfl⟩

section Operation

variable (hp : scope.package ≠ "")
include hp

lemma operationOutput_namedFirst
    (hfree : ∀ wrapper ∈ wrapperNames scope op, s.firstAdapter wrapper ∉ names.taken)
    (hne : (wrapperNames scope op).Nodup) {r : Except SynthesisError OperationOutput}
    (h : s.operationOutput scope names op = (r, names')) :
    (∃ wrappers, wrappers ⊆ wrapperNames scope op ∧
      names'.taken = wrappers.map s.firstAdapter ++ names.taken) ∧
    ∀ o, r = .ok o → s.NamedFirst o.bundles := by
  have hnone : ∃ wrappers, wrappers ⊆ wrapperNames scope op ∧
      names.taken = wrappers.map s.firstAdapter ++ names.taken :=
    ⟨[], List.nil_subset _, rfl⟩
  rw [operationOutput] at h
  split at h
  · obtain ⟨rfl, rfl⟩ := Prod.mk.inj h
    exact ⟨hnone, fun o ho => by cases ho⟩
  · obtain ⟨rfl, rfl⟩ := Prod.mk.inj h
    exact ⟨hnone, fun o ho => by cases ho⟩
  · next request response hq hr =>
    have hnames : wrapperNames scope op = [request.qualifiedName, response.qualifiedName] := by
      rw [Scope.wrapper_qualifiedName hq hp, Scope.wrapper_qualifiedName hr hp]
      rfl
    rw [hnames] at hfree hne ⊢
    rw [forall_mem_pair] at hfree
    rw [List.nodup_cons, List.mem_singleton] at hne
    split at h
    · obtain ⟨rfl, rfl⟩ := Prod.mk.inj h
      exact ⟨⟨[], List.nil_subset _, rfl⟩, fun o ho => by cases ho⟩
    · next first between hfirst =>
      obtain ⟨hfirstName, hbetween⟩ := bundle_namedFirst hfree.1 hfirst
      split at h
      · obtain ⟨rfl, rfl⟩ := Prod.mk.inj h
        refine ⟨⟨[request.qualifiedName], ?_, hbetween⟩, fun o ho => by cases ho⟩
        exact List.cons_subset_cons _ (List.nil_subset _)
      · next second after hsecond =>
        have hsecondFree : s.firstAdapter response.qualifiedName ∉ between.taken := by
          rw [hbetween, List.mem_cons, not_or, firstAdapter_inj]
          exact ⟨fun he => hne.1 he.symm, hfree.2⟩
        obtain ⟨hsecondName, hafter⟩ := bundle_namedFirst hsecondFree hsecond
        obtain ⟨rfl, rfl⟩ := Prod.mk.inj h
        refine ⟨⟨[response.qualifiedName, request.qualifiedName], ?_, ?_⟩, ?_⟩
        · exact (List.Perm.swap _ _ _).subset
        · rw [hafter, hbetween]
          rfl
        · intro o ho
          obtain rfl := Except.ok.inj ho
          exact forall_mem_pair.mpr ⟨hfirstName, hsecondName⟩

variable (hs : s.FirstNamed session)
include hs

lemma claimed_namedFirst {between after : Session} {r : Except SynthesisError OperationOutput}
    (hq : (s.withFaults scope session op).claimWrapper (qualifiedWrapper scope op .request)
      op.methodName .request = .ok between)
    (hr : between.claimWrapper (qualifiedWrapper scope op .response) op.methodName .response =
      .ok after)
    (ho : s.operationOutput scope after.names op = (r, names)) :
    s.FirstNamed { after with names } ∧ ∀ o, r = .ok o → s.NamedFirst o.bundles := by
  obtain ⟨hdistinct, hfresh, hwrappers, hnames⟩ := wrapperNames_of_claimed hq hr
  rw [hnames] at ho
  obtain ⟨⟨wrappers, hsubset, htaken⟩, hnamed⟩ := operationOutput_namedFirst hp
    (fun wrapper hw => hs.free (hfresh wrapper hw)) hdistinct ho
  have hkeys : after.wrappers.map (·.1) =
      (wrapperNames scope op).reverse ++ session.wrappers.map (·.1) := by
    rw [hwrappers]
    rfl
  refine ⟨hs.extend wrappers ?_ ?_ htaken, hnamed⟩
  · exact hkeys ▸ List.subset_append_right _ _
  · intro wrapper hw
    change wrapper ∈ after.wrappers.map (·.1)
    rw [hkeys, List.mem_append, List.mem_reverse]
    exact .inl (hsubset hw)

lemma contribute_namedFirst {r : Except SynthesisError Contribution}
    (h : s.contribute scope session op = (r, session')) :
    s.FirstNamed session' ∧
      ∀ c, r = .ok c → s.NamedFirst (c.output.toList.flatMap (·.bundles)) := by
  cases contributes h with
  | skipped =>
    refine ⟨hs, fun c hc => ?_⟩
    obtain rfl := Except.ok.inj hc
    exact List.forall_mem_nil _
  | requestTaken => exact ⟨hs, fun c hc => by cases hc⟩
  | responseTaken hq =>
    obtain ⟨-, rfl⟩ := Session.claimWrapper_ok hq
    refine ⟨hs.extend [] ?_ (List.nil_subset _) rfl, fun c hc => by cases hc⟩
    exact List.subset_cons_self _ _
  | failed hq hr ho => exact ⟨(claimed_namedFirst hp hs hq hr ho).1, fun c hc => by cases hc⟩
  | made hq hr ho =>
    obtain ⟨hfirst, hnamed⟩ := claimed_namedFirst hp hs hq hr ho
    refine ⟨hfirst, fun c hc => ?_⟩
    obtain rfl := Except.ok.inj hc
    rw [Option.toList_some, List.flatMap_singleton]
    exact hnamed _ rfl

lemma contributeAll_namedFirst {ops : List Operation}
    {r : Except SynthesisError (List (String × Contribution))}
    (h : s.contributeAll scope session ops = (r, session')) :
    s.FirstNamed session' ∧
      ∀ cs, r = .ok cs → s.NamedFirst ((cs.filterMap (·.2.output)).flatMap (·.bundles)) := by
  induction ops generalizing session r with
  | nil =>
    obtain ⟨rfl, rfl⟩ := Prod.mk.inj h
    refine ⟨hs, fun cs hcs => ?_⟩
    obtain rfl := Except.ok.inj hcs
    exact List.forall_mem_nil _
  | cons op rest ih =>
    rw [contributeAll] at h
    split at h
    · next ho =>
      obtain ⟨rfl, rfl⟩ := Prod.mk.inj h
      exact ⟨(contribute_namedFirst hp hs ho).1, fun cs hcs => by cases hcs⟩
    · next c between ho =>
      obtain ⟨hbetween, hnamed⟩ := contribute_namedFirst hp hs ho
      split at h
      · next hr =>
        obtain ⟨rfl, rfl⟩ := Prod.mk.inj h
        exact ⟨(ih hbetween hr).1, fun cs hcs => by cases hcs⟩
      · next more after hr =>
        obtain ⟨rfl, rfl⟩ := Prod.mk.inj h
        obtain ⟨hafter, hrest⟩ := ih hbetween hr
        refine ⟨hafter, fun cs hcs => ?_⟩
        obtain rfl := Except.ok.inj hcs
        rw [NamedFirst, List.filterMap_eq_flatMap_toList, List.flatMap_assoc, List.flatMap_cons,
          List.forall_mem_append]
        refine ⟨hnamed c rfl, ?_⟩
        rw [← List.flatMap_assoc, ← List.filterMap_eq_flatMap_toList]
        exact hrest more rfl

end Operation

section Calls

variable (hp : s.settings.packageSuffix ≠ "")
include hp

lemma interfaceOutput_namedFirst (hs : s.FirstNamed session) {name : String}
    {r : Except SynthesisError InterfaceOutput}
    (h : s.interfaceOutput session name = (r, session')) :
    s.FirstNamed session' ∧ ∀ o, r = .ok o → s.NamedFirst o.bundles := by
  rw [interfaceOutput] at h
  split at h
  · obtain ⟨rfl, rfl⟩ := Prod.mk.inj h
    exact ⟨hs, fun o ho => by cases ho⟩
  · next service _ =>
    have hpackage := Settings.generatedPackage_ne_empty hp service.package
    have hmarked : s.FirstNamed (markPackage session
        (s.settings.generatedPackage service.package) service.effectiveNamespace).2 := by
      rw [markPackage]
      split
      · exact hs
      · exact hs
    dsimp only at h
    split at h
    · next hc =>
      obtain ⟨rfl, rfl⟩ := Prod.mk.inj h
      exact ⟨(contributeAll_namedFirst hpackage hmarked hc).1, fun o ho => by cases ho⟩
    · next cs after hc =>
      obtain ⟨rfl, rfl⟩ := Prod.mk.inj h
      obtain ⟨hfirst, hnamed⟩ := contributeAll_namedFirst hpackage hmarked hc
      refine ⟨hfirst, fun o ho => ?_⟩
      obtain rfl := Except.ok.inj ho
      exact hnamed cs rfl

lemma calls_firstNamed (hs : s.FirstNamed session) (interfaces : List String) :
    ∀ c ∈ s.calls session interfaces, s.FirstNamed c.before := by
  induction interfaces generalizing session with
  | nil => exact List.forall_mem_nil _
  | cons interface rest ih =>
    let c : s.Call := ⟨interface, session⟩
    have hafter : s.FirstNamed c.after := (interfaceOutput_namedFirst hp hs (r := c.answer.1) rfl).1
    exact List.forall_mem_cons.mpr ⟨hs, ih hafter⟩

end Calls

theorem calls_name_adapters_first (s : Synthesizer) (hp : s.settings.packageSuffix ≠ "")
    (interfaces : List String) :
    ∀ o ∈ outputs (s.calls {} interfaces), ∀ b ∈ o.bundles,
      b.adapter.name = b.wrapper.qualifiedName ++ s.settings.adapterSuffix ++ "1" := by
  intro o ho
  obtain ⟨c, hc, hco⟩ := List.mem_filterMap.mp ho
  have hstart : s.FirstNamed {} := List.forall_mem_nil _
  have hbefore := calls_firstNamed hp hstart interfaces c hc
  exact (interfaceOutput_namedFirst hp hbefore (Call.interfaceOutput_of_some hco)).2 o rfl

end SoapWrap.Synthesizer

namespace SoapWrap.Dock

/-- The crane takes three names before it fails, as a crate cannot be classified; the pier then skips
the method that the crane has claimed. -/
def index : Index where
  types := [
    { name := "org.acme.Crane"
      kind := .interface
      methods := [{ name := "load" }, { name := "lift", returns := .named "org.acme.Crate" }] },
    { name := "org.acme.Pier"
      kind := .interface
      methods := [{ name := "lift" }, { name := "moor" }, { name := "moor1" }] },
    { name := "org.acme.Crate", kind := .shapeless }]
  built := rfl

def synthesizer : Synthesizer := .ofIndex index { adapterSuffix := "1", strict := true }

def interfaces : List String := ["org.acme.Crane", "org.acme.Pier"]

theorem calls_name_adapters_first_pier :
    (synthesizer.calls {} interfaces).map (fun c => (c.output?.isSome, c.after.names.size)) =
      [(false, 3), (true, 7)] ∧
    ∃ o ∈ Synthesizer.outputs (synthesizer.calls {} interfaces), ∃ b ∈ o.bundles,
      b.wrapper.qualifiedName = "org.acme.jaxws_asm.Moor1" ∧
        b.adapter.name = "org.acme.jaxws_asm.Moor111" := by
  have hmoor : ∃ o ∈ Synthesizer.outputs (synthesizer.calls {} interfaces), ∃ b ∈ o.bundles,
      b.wrapper.qualifiedName = "org.acme.jaxws_asm.Moor1" := by
    decide +kernel
  obtain ⟨o, ho, b, hb, hname⟩ := hmoor
  refine ⟨by decide +kernel, o, ho, b, hb, hname, ?_⟩
  rw [synthesizer.calls_name_adapters_first (by decide) interfaces o ho b hb, hname]
  decide

end SoapWrap.Dock
