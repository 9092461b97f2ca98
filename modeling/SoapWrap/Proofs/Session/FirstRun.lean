import SoapWrap.Proofs.Sequence
import SoapWrap.Proofs.Session.Supply
import SoapWrap.Proofs.Synthesis.InterfaceSteps

/-! Operations on a new session: every adapter gets the first name for its wrapper, so that the
output of an operation depends on no other operation, and all that operations ask of one another is
that their wrappers have different names. -/

namespace SoapWrap.Synthesizer

variable (s : Synthesizer) {scope : Scope} {op : Operation} {session session' : Session}
variable {names : NameRegistry}

def firstAdapter (wrapper : String) : String :=
  NameRegistry.candidate wrapper s.settings.adapterSuffix 1

def firstBundle (w : Wrapper) : Except SynthesisError Bundle := do
  let (adapter, _) ← Adapter.ofWrapper s.index s.hasCompanion s.settings {} w
  return ⟨w, adapter, Factory.ofWrapper s.settings w⟩

def firstOutput (scope : Scope) (op : Operation) : Except SynthesisError OperationOutput := do
  let request ← scope.wrapper op .request
  let response ← scope.wrapper op .response
  return ⟨op.methodName, ← s.firstBundle request, ← s.firstBundle response⟩

def wrapperNames (scope : Scope) (op : Operation) : List String :=
  [qualifiedWrapper scope op .request, qualifiedWrapper scope op .response]

variable {s}

lemma firstAdapter_inj {w w' : String} : s.firstAdapter w = s.firstAdapter w' ↔ w = w' :=
  NameRegistry.candidate_inj s.settings.adapterSuffix

lemma bundle_of_free (names : NameRegistry) {w : Wrapper}
    (h : s.firstAdapter w.qualifiedName ∉ names.taken) :
    s.bundle names w = (s.firstBundle w).map fun b =>
      (b, ⟨s.firstAdapter w.qualifiedName :: names.taken⟩) := by
  rw [bundle, firstBundle, Adapter.ofWrapper, Adapter.ofWrapper]
  cases mapAll (fun f => FieldShape.ofType s.index s.settings.strict f.declaredType) w.fields with
  | error e => rfl
  | ok shapes =>
    simp only [names.allocate_of_free w.qualifiedName s.settings.adapterSuffix h,
      NameRegistry.allocate_of_free {} w.qualifiedName s.settings.adapterSuffix List.not_mem_nil]
    rfl

lemma operationOutput_of_free (hp : scope.package ≠ "")
    (hfree : ∀ wrapper ∈ wrapperNames scope op, s.firstAdapter wrapper ∉ names.taken)
    (hne : (wrapperNames scope op).Nodup) :
    (s.operationOutput scope names op).1 = s.firstOutput scope op ∧
      ∀ o, s.firstOutput scope op = .ok o → (s.operationOutput scope names op).2.taken =
        (wrapperNames scope op).reverse.map s.firstAdapter ++ names.taken := by
  rw [wrapperNames, forall_mem_pair] at hfree
  rw [wrapperNames, List.nodup_cons, List.mem_singleton] at hne
  rw [operationOutput, firstOutput]
  cases hq : scope.wrapper op .request with
  | error e => exact ⟨rfl, fun o ho => by cases ho⟩
  | ok request =>
    cases hr : scope.wrapper op .response with
    | error e => exact ⟨rfl, fun o ho => by cases ho⟩
    | ok response =>
      have hqn : request.qualifiedName = qualifiedWrapper scope op .request :=
        Scope.wrapper_qualifiedName hq hp
      have hrn : response.qualifiedName = qualifiedWrapper scope op .response :=
        Scope.wrapper_qualifiedName hr hp
      -- The response asks after the request has taken its name, which is that of another wrapper.
      have hrfree : s.firstAdapter response.qualifiedName ∉
          s.firstAdapter request.qualifiedName :: names.taken := by
        rw [List.mem_cons, not_or, firstAdapter_inj, hqn, hrn]
        exact ⟨fun he => hne.1 he.symm, hfree.2⟩
      rw [← hqn, ← hrn] at hfree
      simp only [bundle_of_free names hfree.1, bind, Except.bind]
      cases s.firstBundle request with
      | error e => exact ⟨rfl, fun o ho => by cases ho⟩
      | ok first =>
        simp only [Except.map, bundle_of_free ⟨_⟩ hrfree]
        cases s.firstBundle response with
        | error e => exact ⟨rfl, fun o ho => by cases ho⟩
        | ok second =>
          refine ⟨rfl, fun o _ => ?_⟩
          rw [wrapperNames, ← hqn, ← hrn]
          rfl

def FirstNamed (s : Synthesizer) (session : Session) : Prop :=
  ∀ name ∈ session.names.taken, ∃ wrapper ∈ session.wrappers.map (·.1), name = s.firstAdapter wrapper

lemma FirstNamed.free (hs : s.FirstNamed session) {wrapper : String}
    (hw : wrapper ∉ session.wrappers.map (·.1)) : s.firstAdapter wrapper ∉ session.names.taken := by
  intro hm
  obtain ⟨other, ho, he⟩ := hs _ hm
  exact hw (firstAdapter_inj.mp he ▸ ho)

lemma FirstNamed.extend (hs : s.FirstNamed session) (wrappers : List String)
    (hkept : session.wrappers.map (·.1) ⊆ session'.wrappers.map (·.1))
    (hnew : wrappers ⊆ session'.wrappers.map (·.1))
    (htaken : session'.names.taken = wrappers.map s.firstAdapter ++ session.names.taken) :
    s.FirstNamed session' := by
  intro name hn
  rw [htaken, List.mem_append] at hn
  rcases hn with hn | hn
  · obtain ⟨wrapper, hw, rfl⟩ := List.mem_map.mp hn
    exact ⟨wrapper, hnew hw, rfl⟩
  · obtain ⟨wrapper, hw, rfl⟩ := hs name hn
    exact ⟨wrapper, hkept hw, rfl⟩

structure Enters (s : Synthesizer) (scope : Scope) (session : Session) (op : Operation)
    (c : Contribution) (session' : Session) : Prop where
  distinct : (wrapperNames scope op).Nodup
  fresh : ∀ wrapper ∈ wrapperNames scope op, wrapper ∉ session.wrappers.map (·.1)
  output : ∃ o, c.output = some o ∧ s.firstOutput scope op = .ok o
  wrappers : session'.wrappers = (qualifiedWrapper scope op .response, ⟨op.methodName, .response⟩) ::
    (qualifiedWrapper scope op .request, ⟨op.methodName, .request⟩) :: session.wrappers
  firstNamed : s.FirstNamed session'

lemma wrapperNames_of_claimed {between after : Session}
    (hq : (s.withFaults scope session op).claimWrapper (qualifiedWrapper scope op .request)
      op.methodName .request = .ok between)
    (hr : between.claimWrapper (qualifiedWrapper scope op .response) op.methodName .response =
      .ok after) :
    (wrapperNames scope op).Nodup ∧
      (∀ wrapper ∈ wrapperNames scope op, wrapper ∉ session.wrappers.map (·.1)) ∧
      after.wrappers = (qualifiedWrapper scope op .response, ⟨op.methodName, .response⟩) ::
        (qualifiedWrapper scope op .request, ⟨op.methodName, .request⟩) :: session.wrappers ∧
      after.names = session.names := by
  obtain ⟨hqn, rfl⟩ := Session.claimWrapper_ok hq
  obtain ⟨hrn, rfl⟩ := Session.claimWrapper_ok hr
  have hqnew : qualifiedWrapper scope op .request ∉ session.wrappers.map (·.1) :=
    Session.claim?_eq_none.mp hqn
  have hrnew : qualifiedWrapper scope op .response ∉
      qualifiedWrapper scope op .request :: session.wrappers.map (·.1) :=
    Session.claim?_eq_none.mp hrn
  rw [List.mem_cons, not_or] at hrnew
  refine ⟨?_, forall_mem_pair.mpr ⟨hqnew, hrnew.2⟩, rfl, rfl⟩
  rw [wrapperNames, List.nodup_cons, List.mem_singleton]
  exact ⟨fun he => hrnew.1 he.symm, List.nodup_singleton _⟩

variable (hp : scope.package ≠ "") (hs : s.FirstNamed session)
include hp hs

lemma contribute_enters (hover : isOverload session (qualifiedWrapper scope op .request) = false)
    {c : Contribution} (h : s.contribute scope session op = (.ok c, session')) :
    s.Enters scope session op c session' := by
  cases contributes h with
  | skipped hskip =>
    rw [hover] at hskip
    cases hskip
  | made hq hr ho =>
    obtain ⟨hdistinct, hfresh, hwrappers, hnames⟩ := wrapperNames_of_claimed hq hr
    obtain ⟨hout, htaken⟩ := operationOutput_of_free hp
      (fun wrapper hw => hs.free (hfresh wrapper hw)) hdistinct
    rw [hnames] at ho
    rw [ho] at hout htaken
    refine ⟨hdistinct, hfresh, ⟨_, rfl, hout.symm⟩, hwrappers,
      hs.extend _ ?_ ?_ (htaken _ hout.symm)⟩
    all_goals rw [hwrappers]
    · exact List.subset_append_right (wrapperNames scope op).reverse _
    · exact List.subset_append_left (wrapperNames scope op).reverse _

lemma contribute_of_new (hdistinct : (wrapperNames scope op).Nodup)
    (hfresh : ∀ wrapper ∈ wrapperNames scope op, wrapper ∉ session.wrappers.map (·.1))
    {o : OperationOutput} (hout : s.firstOutput scope op = .ok o) :
    ∃ c session', s.contribute scope session op = (.ok c, session') := by
  have hop := (operationOutput_of_free hp (fun wrapper hw => hs.free (hfresh wrapper hw))
    hdistinct).1
  rw [wrapperNames, forall_mem_pair] at hfresh
  rw [wrapperNames, List.nodup_cons, List.mem_singleton] at hdistinct
  rcases hc : s.contribute scope session op with ⟨e | c, session'⟩
  · exfalso
    cases contributes hc with
    | requestTaken hq =>
      have hm := Session.claimWrapper_taken hq
      exact hfresh.1 hm
    | responseTaken hq hr =>
      obtain ⟨-, rfl⟩ := Session.claimWrapper_ok hq
      rcases List.mem_cons.mp (Session.claimWrapper_taken hr) with he | hm
      · exact hdistinct.1 he.symm
      · exact hfresh.2 hm
    | failed hq hr ho =>
      obtain ⟨-, rfl⟩ := Session.claimWrapper_ok hq
      obtain ⟨-, rfl⟩ := Session.claimWrapper_ok hr
      have ho := congrArg Prod.fst ho
      rw [hout] at hop
      cases hop.symm.trans ho
  · exact ⟨c, session', rfl⟩

omit hp hs

structure Ready (s : Synthesizer) (scope : Scope) (session : Session) (ops : List Operation) :
    Prop where
  firstNamed : s.FirstNamed session
  requests : (ops.map fun op => qualifiedWrapper scope op .request).Nodup
  notOverloads : ∀ op ∈ ops, isOverload session (qualifiedWrapper scope op .request) = false

def AllNew (scope : Scope) (session : Session) (ops : List Operation) : Prop :=
  (ops.flatMap (wrapperNames scope)).Nodup ∧
    (ops.flatMap (wrapperNames scope)).Disjoint (session.wrappers.map (·.1))

section Enters

variable {c : Contribution} {rest : List Operation}
variable (he : s.Enters scope session op c session')
include he

lemma Enters.not_overload {wrapper : String} (hne : wrapper ≠ qualifiedWrapper scope op .request)
    (h : isOverload session wrapper = false) : isOverload session' wrapper = false := by
  rw [isOverload, Session.claim?, he.wrappers]
  by_cases hr : wrapper = qualifiedWrapper scope op .response
  · simp [hr]
  · rw [List.lookup_cons, beq_eq_false_iff_ne.mpr hr, List.lookup_cons,
      beq_eq_false_iff_ne.mpr hne]
    exact h

lemma Enters.ready (h : s.Ready scope session (op :: rest)) : s.Ready scope session' rest := by
  obtain ⟨-, hrequests, hover⟩ := h
  rw [List.map_cons, List.nodup_cons] at hrequests
  rw [List.forall_mem_cons] at hover
  refine ⟨he.firstNamed, hrequests.2, fun other ho => he.not_overload ?_ (hover.2 other ho)⟩
  intro heq
  exact hrequests.1 (heq ▸ List.mem_map_of_mem ho)

lemma Enters.allNew_iff : AllNew scope session (op :: rest) ↔ AllNew scope session' rest := by
  have hclaimed : ∀ names : List String, names.Disjoint (session'.wrappers.map (·.1)) ↔
      (wrapperNames scope op).Disjoint names ∧ names.Disjoint (session.wrappers.map (·.1)) := by
    intro names
    rw [he.wrappers]
    simp only [List.map_cons, List.disjoint_cons_right, wrapperNames, List.disjoint_cons_left,
      List.disjoint_nil_left, and_true, ← and_assoc]
    rw [and_comm (a := qualifiedWrapper scope op .response ∉ names)]
  rw [AllNew, AllNew, List.flatMap_cons, List.nodup_append', List.disjoint_append_left, hclaimed]
  have hdistinct := he.distinct
  have hfresh : (wrapperNames scope op).Disjoint (session.wrappers.map (·.1)) := he.fresh
  tauto

end Enters

section Operations

variable (hp : scope.package ≠ "") {ops : List Operation}
include hp

lemma contributeAll_enters (h : s.Ready scope session ops) {cs : List (String × Contribution)}
    (hc : s.contributeAll scope session ops = (.ok cs, session')) :
    AllNew scope session ops ∧
      mapAll (s.firstOutput scope) ops = .ok (cs.filterMap (·.2.output)) := by
  -- Each step leaves a session that is ready for the rest, and asks of it what it asked before.
  induction ops generalizing session cs with
  | nil =>
    obtain ⟨rfl, -⟩ := contributeAll_nil_ok hc
    exact ⟨⟨List.nodup_nil, List.disjoint_nil_left _⟩, rfl⟩
  | cons op rest ih =>
    obtain ⟨c, between, cs', ho, hr, rfl⟩ := contributeAll_cons_ok hc
    have he := contribute_enters hp h.firstNamed (h.notOverloads op List.mem_cons_self) ho
    obtain ⟨hnew, hm⟩ := ih (he.ready h) hr
    obtain ⟨o, hco, hout⟩ := he.output
    refine ⟨he.allNew_iff.mpr hnew, mapAll_cons_ok_iff.mpr ⟨o, _, hout, hm, ?_⟩⟩
    exact List.filterMap_cons_some hco

lemma contributeAll_of_new (h : s.Ready scope session ops) (hnew : AllNew scope session ops)
    {outputs : List OperationOutput} (hm : mapAll (s.firstOutput scope) ops = .ok outputs) :
    ∃ cs session', s.contributeAll scope session ops = (.ok cs, session') := by
  induction ops generalizing session outputs with
  | nil => exact ⟨[], session, rfl⟩
  | cons op rest ih =>
    have hd := hnew
    rw [AllNew, List.flatMap_cons, List.nodup_append', List.disjoint_append_left] at hd
    obtain ⟨o, more, hout, hrest, -⟩ := mapAll_cons_ok_iff.mp hm
    obtain ⟨c, between, hc⟩ := contribute_of_new hp h.firstNamed hd.1.1 hd.2.1 hout
    have he := contribute_enters hp h.firstNamed (h.notOverloads op List.mem_cons_self) hc
    obtain ⟨cs, after, hcs⟩ := ih (he.ready h) (he.allNew_iff.mp hnew) hrest
    exact ⟨(op.methodName, c) :: cs, after, by simp only [contributeAll, hc, hcs]⟩

end Operations

end SoapWrap.Synthesizer
