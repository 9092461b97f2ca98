import Mathlib.Tactic.Lemma
import SoapWrap.Proofs.Service.Normalization
import SoapWrap.Proofs.Synthesis.InterfaceSteps

namespace SoapWrap

namespace SynthesisError

def ofEmission : SynthesisError → Bool
  | emit _ => true
  | _ => false

def ofInput : SynthesisError → Bool
  | malformedOperation _ (.wrapperCollision ..) => false
  | emit _ => false
  | _ => true

lemma ofEmission_of_ofInput {e : SynthesisError} (h : e.ofInput = true) : e.ofEmission = false := by
  cases e with
  | emit => cases h
  | _ => rfl

end SynthesisError

namespace Index

variable {index : Index} {e : SynthesisError}

lemma Refuses.ofInput {m : MethodInfo} (h : index.Refuses m e) : e.ofInput = true := by
  cases h with
  | mode => rfl
  | thrown => rfl

lemma extract_error {name : String} (h : index.extract name = .error e) :
    e.ofInput = true := by
  cases hi : index.get? name with
  | none =>
    rw [extract, hi] at h
    rw [← Except.error.inj h]
    rfl
  | some info =>
    obtain ⟨hmem, rfl⟩ := get?_eq_some_iff.mp hi
    obtain ⟨m, -, hrefuses⟩ := (extract_eq_error_iff hmem).mp h
    exact hrefuses.ofInput

end Index

variable {e : SynthesisError}

lemma Scope.wrapper_error {scope : Scope} {op : Operation} {kind : WrapperKind}
    (h : scope.wrapper op kind = .error e) : e.ofInput = true := by
  rw [wrapper] at h
  dsimp only at h
  split at h
  · rw [← Except.error.inj h]
    rfl
  · split at h
    · rw [← Except.error.inj h]
      rfl
    · simp at h

lemma FieldShape.decide_error {strict : Bool} {t : TypeExpr} {c : Classification}
    (h : decide strict t c = .error e) : e = .unknownClassification t := by
  simp only [decide] at h
  split at h
  · simp at h
  · simp at h
  · split at h
    · exact (Except.error.inj h).symm
    · simp at h

lemma FieldShape.ofType_error {index : Index} {strict : Bool} {t : TypeExpr}
    (h : ofType index strict t = .error e) : e = .unknownClassification t := by
  rw [ofType] at h
  split at h
  · next hl => exact Except.error.inj h ▸ decide_error hl
  · simp at h
  · split at h
    · next hh => exact Except.error.inj h ▸ decide_error hh
    · simp at h
    · simp at h

lemma Adapter.ofWrapper_error {index : Index} {hasCompanion : String → Bool} {settings : Settings}
    {names : NameRegistry} {w : Wrapper}
    (h : ofWrapper index hasCompanion settings names w = .error e) : e.ofInput = true := by
  rw [ofWrapper] at h
  split at h
  · next hs =>
    obtain ⟨f, -, hf⟩ := mapAll_error hs
    rw [← Except.error.inj h, FieldShape.ofType_error hf]
    rfl
  · simp at h

lemma Session.claimWrapper_error {session : Session} {wrapper operation : String}
    {kind : WrapperKind} (h : session.claimWrapper wrapper operation kind = .error e) :
    ∃ claim, session.claim? wrapper = some claim ∧
      e = .malformedOperation operation (.wrapperCollision wrapper claim.kind claim.operation) := by
  rw [claimWrapper] at h
  split at h
  · next claim hc => exact ⟨claim, hc, (Except.error.inj h).symm⟩
  · cases h

lemma Session.claimWrapper_collision {session : Session} {kind : WrapperKind} {claim : WrapperClaim}
    {wrapper wrapper' operation operation' : String}
    (h : session.claimWrapper wrapper operation kind = .error (.malformedOperation operation'
      (.wrapperCollision wrapper' claim.kind claim.operation))) :
    wrapper' = wrapper ∧ session.claim? wrapper = some claim := by
  obtain ⟨⟨claimant, kind'⟩, hc, he⟩ := claimWrapper_error h
  obtain ⟨-, hw, hk, ho⟩ := by simpa using he
  exact ⟨hw, by rw [hc, ← hk, ← ho]⟩

namespace Synthesizer

variable {s : Synthesizer} {scope : Scope} {session session' : Session}

lemma bundle_error {names : NameRegistry} {w : Wrapper} (h : s.bundle names w = .error e) :
    e.ofInput = true := by
  rw [bundle] at h
  split at h
  · next ha => exact Except.error.inj h ▸ Adapter.ofWrapper_error ha
  · simp at h

lemma operationOutput_error {names names' : NameRegistry} {op : Operation}
    (h : s.operationOutput scope names op = (.error e, names')) : e.ofInput = true := by
  rw [operationOutput] at h
  split at h
  · next hq => exact Except.error.inj (Prod.mk.inj h).1 ▸ Scope.wrapper_error hq
  · next hr _ => exact Except.error.inj (Prod.mk.inj h).1 ▸ Scope.wrapper_error hr
  · split at h
    · next hq => exact Except.error.inj (Prod.mk.inj h).1 ▸ bundle_error hq
    · split at h
      · next hr => exact Except.error.inj (Prod.mk.inj h).1 ▸ bundle_error hr
      · simp at h

lemma contribute_error {op : Operation} (h : s.contribute scope session op = (.error e, session')) :
    e.ofEmission = false := by
  cases contributes h with
  | requestTaken hq =>
    obtain ⟨claim, -, rfl⟩ := Session.claimWrapper_error hq
    rfl
  | responseTaken _ hr =>
    obtain ⟨claim, -, rfl⟩ := Session.claimWrapper_error hr
    rfl
  | failed _ _ ho => exact SynthesisError.ofEmission_of_ofInput (operationOutput_error ho)

lemma contributeAll_error {ops : List Operation}
    (h : s.contributeAll scope session ops = (.error e, session')) : e.ofEmission = false := by
  induction ops generalizing session with
  | nil => simp [contributeAll] at h
  | cons op rest ih =>
    rw [contributeAll] at h
    split at h
    · next ho => exact Except.error.inj (Prod.mk.inj h).1 ▸ contribute_error ho
    · split at h
      · next hr =>
        obtain ⟨he, hs⟩ := Prod.mk.inj h
        obtain rfl := Except.error.inj he
        exact ih (hs ▸ hr)
      · simp at h

lemma interfaceOutput_error {name : String}
    (h : s.interfaceOutput session name = (.error e, session')) : e.ofEmission = false := by
  rw [interfaceOutput] at h
  split at h
  · next hx =>
    exact SynthesisError.ofEmission_of_ofInput
      (Except.error.inj (Prod.mk.inj h).1 ▸ Index.extract_error hx)
  · dsimp only at h
    split at h
    · next hc => exact Except.error.inj (Prod.mk.inj h).1 ▸ contributeAll_error hc
    · simp at h

end Synthesizer

end SoapWrap
