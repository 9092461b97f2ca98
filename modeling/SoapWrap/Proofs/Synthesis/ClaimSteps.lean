import SoapWrap.Proofs.Session.Supply
import SoapWrap.Proofs.Synthesis.InterfaceSteps

namespace SoapWrap.Synthesizer

variable {s : Synthesizer} {scope : Scope} {op : Operation} {session session' : Session}

def operationClaims (scope : Scope) (op : Operation) : List (String × WrapperClaim) :=
  [(qualifiedWrapper scope op .request, ⟨op.methodName, .request⟩),
    (qualifiedWrapper scope op .response, ⟨op.methodName, .response⟩)]

lemma isOverload_eq_true_iff {wrapper : String} :
    isOverload session wrapper = true ↔
      ∃ operation, session.claim? wrapper = some ⟨operation, .request⟩ := by
  rw [isOverload]
  split
  · next claim hc =>
    obtain ⟨operation, kind⟩ := claim
    simp [hc]
  · next hc => simp [hc]

structure Generates (s : Synthesizer) (scope : Scope) (session : Session) (op : Operation)
    (o : OperationOutput) (session' : Session) : Prop where
  output : ∃ names names', s.operationOutput scope names op = (.ok o, names')
  request_new : session.claim? (qualifiedWrapper scope op .request) = none
  response_new : session.claim? (qualifiedWrapper scope op .response) = none
  distinct : qualifiedWrapper scope op .response ≠ qualifiedWrapper scope op .request
  wrappers : session'.wrappers = (operationClaims scope op).reverse ++ session.wrappers

lemma claim?_addClaim {wrapper other : String} {claim : WrapperClaim} :
    (session.addClaim other claim).claim? wrapper =
      if wrapper = other then some claim else session.claim? wrapper :=
  lookup_cons_eq_ite

lemma Generates.claim? {o : OperationOutput} (h : s.Generates scope session op o session')
    (wrapper : String) :
    session'.claim? wrapper =
      if wrapper = qualifiedWrapper scope op .response then some ⟨op.methodName, .response⟩
      else if wrapper = qualifiedWrapper scope op .request then some ⟨op.methodName, .request⟩
      else session.claim? wrapper := by
  rw [← claim?_addClaim, ← claim?_addClaim, Session.claim?, h.wrappers]
  rfl

lemma contribute_claims {c : Contribution} (h : s.contribute scope session op = (.ok c, session')) :
    (isOverload session (qualifiedWrapper scope op .request) = true ∧ c.output = none ∧
        session'.wrappers = session.wrappers) ∨
      ∃ o, c.output = some o ∧ s.Generates scope session op o session' := by
  cases contributes h with
  | skipped hover => exact .inl ⟨hover, rfl, rfl⟩
  | @made o _ after names hq hr ho =>
    obtain ⟨hqn, rfl⟩ := Session.claimWrapper_ok hq
    obtain ⟨hrn, rfl⟩ := Session.claimWrapper_ok hr
    rw [claim?_addClaim] at hrn
    split at hrn
    · cases hrn
    · next hne => exact .inr ⟨o, rfl, ⟨_, _, ho⟩, hqn, hrn, hne, rfl⟩

lemma not_isOverload_of_error {e : SynthesisError}
    (h : s.contribute scope session op = (.error e, session')) :
    ¬ isOverload session (qualifiedWrapper scope op .request) = true := by
  rw [contribute] at h
  dsimp only at h
  split at h
  · cases h
  · next hover => exact hover

lemma markPackage_wrappers (package xmlNamespace : String) :
    (markPackage session package xmlNamespace).2.wrappers = session.wrappers := by
  rw [markPackage]
  split <;> rfl

end SoapWrap.Synthesizer
