import SoapWrap.Proofs.Synthesis.ClaimSteps
import SoapWrap.Proofs.Synthesis.Failures
import SoapWrap.Proofs.Synthesis.Settlement

/-! On a new session the names of the methods of an interface decide which of them are overloads and
whether a wrapper collides with one that is there. -/

namespace SoapWrap

def Naming.overloads (earlier : List String) : List String → List String
  | [] => []
  | m :: rest =>
    if capitalize m ∈ earlier.map capitalize then m :: overloads (earlier ++ [m]) rest
    else overloads (earlier ++ [m]) rest

namespace Settings

def claimedName (settings : Settings) (package method : String) : WrapperKind → String
  | .request => package ++ "." ++ (Naming.capitalize method ++ settings.requestSuffix)
  | .response => package ++ "." ++ (Naming.capitalize method ++ settings.responseSuffix)

def attempts (settings : Settings) (package : String) (methods : List String) :
    List (String × WrapperClaim) :=
  methods.flatMap fun m =>
    [(settings.claimedName package m .request, ⟨m, .request⟩),
      (settings.claimedName package m .response, ⟨m, .response⟩)]

/-- A request wrapper has the name of a response wrapper, of another method or of the same. -/
def Collide (settings : Settings) (methods : List String) : Prop :=
  ∃ n ∈ methods, ∃ m ∈ methods,
    Naming.capitalize n ++ settings.requestSuffix = Naming.capitalize m ++ settings.responseSuffix

variable {settings : Settings} {package m n : String} {kind kind' : WrapperKind}
variable {methods more : List String} {wrapper : String} {claim : WrapperClaim}

lemma claimedName_inj : settings.claimedName package m kind = settings.claimedName package n kind ↔
    Naming.capitalize m = Naming.capitalize n := by
  cases kind <;> simp [claimedName, String.append_right_inj, String.append_left_inj]

lemma claimedName_request_eq_response :
    settings.claimedName package m .request = settings.claimedName package n .response ↔
      Naming.capitalize m ++ settings.requestSuffix =
        Naming.capitalize n ++ settings.responseSuffix :=
  String.append_right_inj _

lemma attempts_append (methods more : List String) : settings.attempts package (methods ++ more) =
    settings.attempts package methods ++ settings.attempts package more :=
  List.flatMap_append

lemma mem_attempts : (wrapper, claim) ∈ settings.attempts package methods ↔
    claim.operation ∈ methods ∧
      wrapper = settings.claimedName package claim.operation claim.kind := by
  obtain ⟨operation, kind⟩ := claim
  cases kind <;> simp [attempts]

lemma attempts_lookup_isSome (hn : n ∈ methods) (kind : WrapperKind) :
    ((settings.attempts package methods).lookup (settings.claimedName package n kind)).isSome := by
  rw [Option.isSome_iff_ne_none]
  intro hnone
  have hmem : (settings.claimedName package n kind, (⟨n, kind⟩ : WrapperClaim)) ∈
      settings.attempts package methods := mem_attempts.mpr ⟨hn, rfl⟩
  simpa using List.lookup_eq_none_iff.mp hnone _ hmem

lemma attempts_lookup_snoc : (settings.attempts package (methods ++ [m])).lookup wrapper =
    ((settings.attempts package methods).lookup wrapper).or
      (if wrapper = settings.claimedName package m .request then some ⟨m, .request⟩
      else if wrapper = settings.claimedName package m .response then some ⟨m, .response⟩
      else none) := by
  have hlast : settings.attempts package [m] =
      [(settings.claimedName package m .request, ⟨m, .request⟩),
        (settings.claimedName package m .response, ⟨m, .response⟩)] := List.flatMap_singleton _ m
  rw [attempts_append, List.lookup_append, hlast, lookup_cons_eq_ite, lookup_cons_eq_ite,
    List.lookup_nil]

lemma Collide.mono (h : settings.Collide methods)
    (hs : ∀ m ∈ methods, Naming.capitalize m ∈ more.map Naming.capitalize) :
    settings.Collide more := by
  obtain ⟨n, hn, m, hm, he⟩ := h
  obtain ⟨n', hn', hnn⟩ := List.mem_map.mp (hs n hn)
  obtain ⟨m', hm', hmm⟩ := List.mem_map.mp (hs m hm)
  exact ⟨n', hn', m', hm', by rw [hnn, hmm, he]⟩

lemma collide_snoc_iff (package : String) : settings.Collide (methods ++ [m]) ↔
    settings.Collide methods ∨
      (∃ n ∈ methods,
        settings.claimedName package m .request = settings.claimedName package n .response) ∨
      (∃ n ∈ methods,
        settings.claimedName package n .request = settings.claimedName package m .response) ∨
      settings.claimedName package m .request = settings.claimedName package m .response := by
  simp only [Collide, claimedName_request_eq_response, List.mem_append, List.mem_singleton,
    or_and_right, exists_or, exists_eq_left, and_or_left, or_assoc]

lemma Collide.append (h : settings.Collide methods) (more : List String) :
    settings.Collide (methods ++ more) :=
  h.mono fun _ hm => List.mem_map_of_mem (List.mem_append_left more hm)

end Settings

namespace Synthesizer

variable {s : Synthesizer} {scope : Scope} {op : Operation} {session session' : Session}
variable {done : List String} {kind : WrapperKind}

lemma qualifiedWrapper_eq : qualifiedWrapper scope op kind =
    scope.settings.claimedName scope.package op.methodName kind := by
  cases kind <;> rfl

/-- The session knows the methods that are done, none of which collide: a wrapper that was claimed
more than once is that of the method that came first. -/
structure Tracks (scope : Scope) (done : List String) (session : Session) : Prop where
  first : ∀ wrapper,
    session.claim? wrapper = (scope.settings.attempts scope.package done).lookup wrapper
  apart : ¬ scope.settings.Collide done

namespace Tracks

variable {m n : String} {wrapper : String} {claim : WrapperClaim}

lemma mem_of_claim? (h : Tracks scope done session) (hc : session.claim? wrapper = some claim) :
    claim.operation ∈ done ∧
      wrapper = scope.settings.claimedName scope.package claim.operation claim.kind := by
  rw [h.first] at hc
  exact Settings.mem_attempts.mp (mem_of_lookup hc)

lemma claim?_of_mem (h : Tracks scope done session)
    (hm : Naming.capitalize m ∈ done.map Naming.capitalize) (kind : WrapperKind) :
    ∃ operation, session.claim? (scope.settings.claimedName scope.package m kind) =
      some ⟨operation, kind⟩ := by
  obtain ⟨n, hn, hname⟩ := List.mem_map.mp hm
  have hsome : (session.claim? (scope.settings.claimedName scope.package n kind)).isSome := by
    rw [h.first]
    exact Settings.attempts_lookup_isSome hn kind
  rw [← Settings.claimedName_inj.mpr hname]
  obtain ⟨⟨operation, kind'⟩, hc⟩ := Option.isSome_iff_exists.mp hsome
  obtain ⟨hmem, he⟩ := h.mem_of_claim? hc
  refine ⟨operation, hc.trans ?_⟩
  cases kind <;> cases kind'
  · rfl
  · exact absurd ⟨n, hn, operation, hmem, Settings.claimedName_request_eq_response.mp he⟩ h.apart
  · exact absurd ⟨operation, hmem, n, hn, Settings.claimedName_request_eq_response.mp he.symm⟩
      h.apart
  · rfl

lemma claim?_ne_none (h : Tracks scope done session)
    (hm : Naming.capitalize m ∈ done.map Naming.capitalize) (kind : WrapperKind) :
    session.claim? (scope.settings.claimedName scope.package m kind) ≠ none := by
  obtain ⟨operation, hc⟩ := h.claim?_of_mem hm kind
  rw [hc]
  exact Option.some_ne_none _

lemma isOverload_iff (h : Tracks scope done session) :
    isOverload session (qualifiedWrapper scope op .request) = true ↔
      Naming.capitalize op.methodName ∈ done.map Naming.capitalize := by
  rw [isOverload_eq_true_iff, qualifiedWrapper_eq]
  constructor
  · rintro ⟨operation, hc⟩
    obtain ⟨hmem, hname⟩ := h.mem_of_claim? hc
    exact List.mem_map.mpr ⟨operation, hmem, (Settings.claimedName_inj.mp hname).symm⟩
  · intro hm
    exact h.claim?_of_mem hm .request

lemma skip (h : Tracks scope done session)
    (hover : Naming.capitalize m ∈ done.map Naming.capitalize)
    (hw : session'.wrappers = session.wrappers) : Tracks scope (done ++ [m]) session' where
  first wrapper := by
    rw [Settings.attempts_lookup_snoc, ← h.first, Session.claim?, hw, ← Session.claim?]
    cases hc : session.claim? wrapper with
    | some claim => rfl
    | none =>
      have hne (kind : WrapperKind) :
          wrapper ≠ scope.settings.claimedName scope.package m kind := by
        rintro rfl
        exact h.claim?_ne_none hover kind hc
      rw [if_neg (hne .request), if_neg (hne .response)]
      rfl
  apart hcollide := by
    refine h.apart (hcollide.mono fun k hk => ?_)
    rcases List.mem_append.mp hk with hk | hk
    · exact List.mem_map_of_mem hk
    · rwa [List.mem_singleton.mp hk]

lemma generate {o : OperationOutput} (h : Tracks scope done session)
    (hg : s.Generates scope session op o session') :
    Tracks scope (done ++ [op.methodName]) session' where
  first wrapper := by
    have hnew := hg.request_new
    have hnew' := hg.response_new
    have hne := hg.distinct
    rw [Settings.attempts_lookup_snoc, ← h.first, ← qualifiedWrapper_eq, ← qualifiedWrapper_eq,
      hg.claim?]
    by_cases hr : wrapper = qualifiedWrapper scope op .response
    · rw [if_pos hr, hr, hnew', if_neg hne, if_pos rfl]
      rfl
    · rw [if_neg hr, if_neg hr]
      split
      · next hq =>
        rw [hq, hnew]
        rfl
      · rw [Option.or_none]
  apart hcollide := by
    -- A collision that is not among the methods before needs a claim that was new just now.
    have hq := hg.request_new
    have hr := hg.response_new
    have hne := hg.distinct
    rw [qualifiedWrapper_eq] at hq hr hne
    rw [qualifiedWrapper_eq] at hne
    rcases (Settings.collide_snoc_iff scope.package).mp hcollide with hbefore | hrest
    · exact h.apart hbefore
    · rcases hrest with ⟨n, hn, he⟩ | ⟨n, hn, he⟩ | he
      · exact h.claim?_ne_none (List.mem_map_of_mem hn) .response (he ▸ hq)
      · exact h.claim?_ne_none (List.mem_map_of_mem hn) .request (he ▸ hr)
      · exact hne he.symm

lemma contributed {c : Contribution} (h : Tracks scope done session)
    (hc : s.contribute scope session op = (.ok c, session')) :
    Tracks scope (done ++ [op.methodName]) session' ∧
      (c.output = none ↔ Naming.capitalize op.methodName ∈ done.map Naming.capitalize) := by
  rcases contribute_claims hc with ⟨hover, hnone, hsame⟩ | ⟨o, hsome, hg⟩
  · have hname := h.isOverload_iff.mp hover
    exact ⟨h.skip hname hsame, iff_of_true hnone hname⟩
  · refine ⟨h.generate hg, iff_of_false (by simp [hsome]) fun hname => ?_⟩
    obtain ⟨operation, hclaim⟩ := isOverload_eq_true_iff.mp (h.isOverload_iff.mpr hname)
    rw [hg.request_new] at hclaim
    cases hclaim

lemma contributedAll {ops : List Operation} {cs : List (String × Contribution)}
    (h : Tracks scope done session)
    (hc : s.contributeAll scope session ops = (.ok cs, session')) :
    Tracks scope (done ++ ops.map (·.methodName)) session' ∧
      (cs.filterMap fun c => if c.2.output.isNone then some c.1 else none) =
        Naming.overloads done (ops.map (·.methodName)) := by
  induction ops generalizing session done cs with
  | nil =>
    obtain ⟨rfl, rfl⟩ := contributeAll_nil_ok hc
    rw [List.map_nil, List.append_nil]
    exact ⟨h, rfl⟩
  | cons op rest ih =>
    obtain ⟨c, between, cs', ho, hr, rfl⟩ := contributeAll_cons_ok hc
    obtain ⟨hstep, hover⟩ := h.contributed ho
    obtain ⟨hall, hskipped⟩ := ih hstep hr
    rw [List.append_assoc] at hall
    refine ⟨hall, ?_⟩
    rw [List.map_cons, Naming.overloads, List.filterMap_cons, hskipped]
    cases hoc : c.output with
    | none =>
      rw [if_pos (hover.mp hoc)]
      rfl
    | some o =>
      rw [if_neg fun hname => Option.some_ne_none o (hoc.symm.trans (hover.mpr hname))]
      rfl

end Tracks

structure Collided (scope : Scope) (methods : List String) (session : Session) (wrapper : String)
    (claim : WrapperClaim) : Prop where
  collide : scope.settings.Collide methods
  first : (scope.settings.attempts scope.package methods).lookup wrapper = some claim
  held : session.claim? wrapper = some claim

lemma Collided.append {methods : List String} {wrapper : String} {claim : WrapperClaim}
    (h : Collided scope methods session wrapper claim) (more : List String) :
    Collided scope (methods ++ more) session wrapper claim where
  collide := h.collide.append more
  first := by
    rw [Settings.attempts_append, List.lookup_append, h.first]
    rfl
  held := h.held

namespace Tracks

variable {operation wrapper m : String} {claim : WrapperClaim}

lemma collided_of_claim? (h : Tracks scope done session) (hclaim : session.claim? wrapper = some claim)
    (hheld : session'.claim? wrapper = some claim)
    (hcollide : scope.settings.Collide (done ++ [m])) :
    Collided scope (done ++ [m]) session' wrapper claim where
  collide := hcollide
  first := by
    rw [Settings.attempts_lookup_snoc, ← h.first, hclaim]
    rfl
  held := hheld

lemma collided_request (h : Tracks scope done session)
    (hover : ¬ isOverload session (scope.settings.claimedName scope.package m .request) = true)
    (hclaim : session.claim? (scope.settings.claimedName scope.package m .request) = some claim) :
    Collided scope (done ++ [m]) session (scope.settings.claimedName scope.package m .request)
      claim := by
  refine h.collided_of_claim? hclaim hclaim ((Settings.collide_snoc_iff scope.package).mpr ?_)
  obtain ⟨hmem, hname⟩ := h.mem_of_claim? hclaim
  obtain ⟨claimant, kind⟩ := claim
  cases kind with
  | request => exact absurd (isOverload_eq_true_iff.mpr ⟨claimant, hclaim⟩) hover
  | response => exact .inr (.inl ⟨claimant, hmem, hname⟩)

lemma collided_response (h : Tracks scope done session)
    (hnew : session.claim? (scope.settings.claimedName scope.package m .request) = none)
    (hheld : (session.addClaim (scope.settings.claimedName scope.package m .request)
      ⟨m, .request⟩).claim? (scope.settings.claimedName scope.package m .response) = some claim) :
    Collided scope (done ++ [m])
      (session.addClaim (scope.settings.claimedName scope.package m .request) ⟨m, .request⟩)
      (scope.settings.claimedName scope.package m .response) claim := by
  have hclaim := hheld
  rw [claim?_addClaim] at hclaim
  split at hclaim
  · next hsame =>
    -- The method collides with itself.
    obtain rfl := Option.some.inj hclaim
    refine ⟨(Settings.collide_snoc_iff scope.package).mpr (.inr (.inr (.inr hsame.symm))), ?_,
      hheld⟩
    rw [Settings.attempts_lookup_snoc, ← h.first, hsame, hnew, if_pos rfl]
    rfl
  · refine h.collided_of_claim? hclaim hheld ((Settings.collide_snoc_iff scope.package).mpr ?_)
    obtain ⟨hmem, hname⟩ := h.mem_of_claim? hclaim
    obtain ⟨claimant, kind⟩ := claim
    cases kind with
    | request => exact .inr (.inr (.inl ⟨claimant, hmem, hname.symm⟩))
    | response =>
      -- The two methods would share their request wrapper as well, which is new.
      have hm : Naming.capitalize m ∈ done.map Naming.capitalize :=
        List.mem_map.mpr ⟨claimant, hmem, (Settings.claimedName_inj.mp hname).symm⟩
      exact absurd hnew (h.claim?_ne_none hm .request)

lemma collided (h : Tracks scope done session)
    (hc : s.contribute scope session op = (.error (.malformedOperation operation
      (.wrapperCollision wrapper claim.kind claim.operation)), session')) :
    Collided scope (done ++ [op.methodName]) session' wrapper claim := by
  have hfaults : Tracks scope done (s.withFaults scope session op) := ⟨h.first, h.apart⟩
  have hover := not_isOverload_of_error hc
  rw [qualifiedWrapper_eq] at hover
  cases contributes hc with
  | requestTaken hq =>
    rw [qualifiedWrapper_eq] at hq
    obtain ⟨rfl, hclaim⟩ := Session.claimWrapper_collision hq
    exact hfaults.collided_request hover hclaim
  | responseTaken hq hr =>
    rw [qualifiedWrapper_eq] at hq hr
    obtain ⟨hnew, rfl⟩ := Session.claimWrapper_ok hq
    obtain ⟨rfl, hclaim⟩ := Session.claimWrapper_collision hr
    exact hfaults.collided_response hnew hclaim
  | failed _ _ ho => cases operationOutput_error ho

lemma collidedAll {ops : List Operation} (h : Tracks scope done session)
    (hc : s.contributeAll scope session ops = (.error (.malformedOperation operation
      (.wrapperCollision wrapper claim.kind claim.operation)), session')) :
    Collided scope (done ++ ops.map (·.methodName)) session' wrapper claim := by
  induction ops generalizing session done with
  | nil => cases hc
  | cons op rest ih =>
    rw [contributeAll] at hc
    rw [List.map_cons, List.append_cons]
    split at hc
    · next ho =>
      obtain ⟨he, rfl⟩ := Prod.mk.inj hc
      obtain rfl := Except.error.inj he
      exact (h.collided ho).append _
    · next ho =>
      split at hc
      · next hr =>
        obtain ⟨he, rfl⟩ := Prod.mk.inj hc
        obtain rfl := Except.error.inj he
        exact ih (h.contributed ho).1 hr
      · cases hc

lemma ofMarked (scope : Scope) (package xmlNamespace : String) :
    Tracks scope [] (markPackage {} package xmlNamespace).2 where
  first wrapper := by
    rw [Session.claim?, markPackage_wrappers]
    rfl
  apart := by
    rintro ⟨n, hn, -⟩
    exact absurd hn List.not_mem_nil

end Tracks

variable {info : TypeInfo}

lemma interfaceOutput_skipped {o : InterfaceOutput} (hi : info ∈ s.index.types)
    (h : s.interfaceOutput {} info.name = (.ok o, session')) :
    o.skipped = Naming.overloads [] (info.methods.map (·.name)) ∧
      ¬ s.settings.Collide (info.methods.map (·.name)) := by
  obtain ⟨service, cs, hx, -, -, -, -, hc, -, -, hskipped⟩ := interfaceOutput_ok h
  obtain ⟨htracks, hoverloads⟩ := (Tracks.ofMarked _ _ _).contributedAll hc
  rw [List.nil_append, Index.methodNames_of_extract hi hx] at htracks
  rw [Index.methodNames_of_extract hi hx] at hoverloads
  exact ⟨hskipped.trans hoverloads, htracks.apart⟩

lemma interfaceOutput_collided {operation wrapper : String} {claim : WrapperClaim}
    (hi : info ∈ s.index.types)
    (h : s.interfaceOutput {} info.name = (.error (.malformedOperation operation
      (.wrapperCollision wrapper claim.kind claim.operation)), session')) :
    ∃ xmlNamespace, Collided ⟨s.index, s.packageOf info, xmlNamespace, s.settings⟩
      (info.methods.map (·.name)) session' wrapper claim := by
  rw [interfaceOutput] at h
  split at h
  · next hx =>
    obtain rfl := Except.error.inj (Prod.mk.inj h).1
    cases Index.extract_error hx
  · next service hx =>
    have hpackage : s.settings.generatedPackage service.package = s.packageOf info := by
      obtain ⟨-, -, -, hname, -⟩ := Index.extract_ok hx
      rw [ServiceInterface.package, hname]
      rfl
    rw [hpackage] at h
    dsimp only at h
    split at h
    · next hc =>
      obtain ⟨he, rfl⟩ := Prod.mk.inj h
      obtain rfl := Except.error.inj he
      have hcollided := (Tracks.ofMarked _ _ _).collidedAll hc
      rw [List.nil_append, Index.methodNames_of_extract hi hx] at hcollided
      exact ⟨service.effectiveNamespace, hcollided⟩
    · cases h

theorem interfaceOutput_detects_collisions (s : Synthesizer) (info : TypeInfo)
    (hi : info ∈ s.index.types) :
    let methods := info.methods.map (·.name)
    let answer := s.interfaceOutput {} info.name
    (∀ o, answer.1 = .ok o →
      o.skipped = Naming.overloads [] methods ∧ ¬ s.settings.Collide methods) ∧
    ∀ operation wrapper claim e, answer.1 = .error e →
      e = .malformedOperation operation
        (.wrapperCollision wrapper claim.kind claim.operation) →
      s.settings.Collide methods ∧
      (s.settings.attempts (s.packageOf info) methods).lookup wrapper = some claim ∧
      answer.2.claim? wrapper = some claim ∧
      e.message = "Malformed operation '" ++ operation ++ "': " ++
        ("wrapper '" ++ wrapper ++ "' collides with the " ++ claim.kind.text ++
          " wrapper of operation '" ++ claim.operation ++ "'") := by
  intro methods answer
  constructor
  · intro o ho
    exact interfaceOutput_skipped hi (Prod.ext ho rfl)
  · rintro operation wrapper claim e he rfl
    obtain ⟨_, hcollided⟩ := interfaceOutput_collided hi (Prod.ext he rfl)
    exact ⟨hcollided.collide, hcollided.first, hcollided.held, rfl⟩

end Synthesizer

namespace Turnstile

def settings : Settings := { requestSuffix := "In", responseSuffix := "" }

def passing : TypeInfo where
  name := "org.acme.Turnstile"
  kind := .interface
  tags := [.ofName TagName.webService]
  methods := [{ name := "walk" }, { name := "turn" }, { name := "Walk" }, { name := "turn" }]

/-- The response wrapper of the last method has the name of the request wrapper of the first. -/
def stuck : TypeInfo where
  name := "org.acme.Barrier"
  kind := .interface
  tags := [.ofName TagName.webService]
  methods := [{ name := "walk" }, { name := "Walk" }, { name := "walkIn" }]

def index : Index where
  types := [passing, stuck]
  built := rfl

def synthesizer : Synthesizer := .ofIndex index settings

theorem turnstile_detects_collisions :
    (∃ o, (synthesizer.interfaceOutput {} passing.name).1 = .ok o ∧
      o.skipped = ["Walk", "turn"]) ∧
    (∃ e, (synthesizer.interfaceOutput {} stuck.name).1 = .error e ∧
      e.message = "Malformed operation 'walkIn': wrapper 'org.acme.jaxws_asm.WalkIn' collides " ++
        "with the Request wrapper of operation 'walk'") ∧
    ¬ settings.Collide ["walk", "turn", "Walk", "turn"] ∧
    settings.Collide ["walk", "Walk", "walkIn"] := by
  have hpassing : ∃ o, (synthesizer.interfaceOutput {} passing.name).1 = .ok o := by
    have hok : (synthesizer.interfaceOutput {} passing.name).1.toOption.isSome = true := by
      decide +kernel
    cases hr : (synthesizer.interfaceOutput {} passing.name).1 with
    | error e =>
      rw [hr] at hok
      cases hok
    | ok o => exact ⟨o, rfl⟩
  have hstuck : (synthesizer.interfaceOutput {} stuck.name).1 =
      .error (.malformedOperation "walkIn"
        (.wrapperCollision "org.acme.jaxws_asm.WalkIn" .request "walk")) := by
    decide +kernel
  obtain ⟨o, ho⟩ := hpassing
  obtain ⟨hpassed, -⟩ := synthesizer.interfaceOutput_detects_collisions passing (by decide)
  obtain ⟨-, hrefused⟩ := synthesizer.interfaceOutput_detects_collisions stuck (by decide)
  obtain ⟨hskipped, happart⟩ := hpassed o ho
  obtain ⟨hcollide, -, -, hmessage⟩ := hrefused _ _ ⟨"walk", .request⟩ _ hstuck rfl
  exact ⟨⟨o, ho, hskipped⟩, ⟨_, hstuck, hmessage⟩, happart, hcollide⟩

end Turnstile

end SoapWrap
