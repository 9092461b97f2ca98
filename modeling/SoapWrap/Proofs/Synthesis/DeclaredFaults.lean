import SoapWrap.Proofs.Synthesis.Extraction
import SoapWrap.Proofs.Synthesis.FaultSteps
import SoapWrap.Proofs.Synthesis.Settlement

namespace SoapWrap

def Fault.firsts (fs : List Fault) : List Fault :=
  fs.eraseDupsBy fun f g => f.faultName == g.faultName

namespace FaultRegistry

def claimAll (faults : FaultRegistry) : List Fault → List Fault × FaultRegistry
  | [] => ([], faults)
  | f :: rest =>
    let (isNew, faults) := faults.claim f.faultName
    let (more, faults) := faults.claimAll rest
    (if isNew then f :: more else more, faults)

variable {faults : FaultRegistry} {f : Fault} {fs gs : List Fault} {name : String}

lemma claimAll_cons_of_mem (h : f.faultName ∈ faults.claimed) :
    faults.claimAll (f :: fs) = faults.claimAll fs := by
  have hclaim : faults.claim f.faultName = (false, faults) := by
    rw [claim, contains, if_pos (by simpa using h)]
  rw [claimAll, hclaim]
  rfl

lemma claimAll_cons_of_not_mem (h : f.faultName ∉ faults.claimed) :
    faults.claimAll (f :: fs) =
      (f :: ((⟨f.faultName :: faults.claimed⟩ : FaultRegistry).claimAll fs).1,
        ((⟨f.faultName :: faults.claimed⟩ : FaultRegistry).claimAll fs).2) := by
  have hclaim : faults.claim f.faultName = (true, ⟨f.faultName :: faults.claimed⟩) := by
    rw [claim, contains, if_neg (by simpa using h)]
  rw [claimAll, hclaim]
  rfl

lemma claimAll_append :
    faults.claimAll (fs ++ gs) =
      ((faults.claimAll fs).1 ++ ((faults.claimAll fs).2.claimAll gs).1,
        ((faults.claimAll fs).2.claimAll gs).2) := by
  induction fs generalizing faults with
  | nil => rfl
  | cons f rest ih =>
    rw [List.cons_append]
    by_cases h : f.faultName ∈ faults.claimed
    · rw [claimAll_cons_of_mem h, claimAll_cons_of_mem h, ih]
    · rw [claimAll_cons_of_not_mem h, claimAll_cons_of_not_mem h, ih]
      rfl

lemma mem_claimed_claimAll :
    name ∈ (faults.claimAll fs).2.claimed ↔
      name ∈ faults.claimed ∨ name ∈ fs.map (·.faultName) := by
  induction fs generalizing faults with
  | nil => simp [claimAll]
  | cons f rest ih =>
    rw [List.map_cons, List.mem_cons]
    by_cases h : f.faultName ∈ faults.claimed
    · rw [claimAll_cons_of_mem h, ih]
      constructor
      · exact Or.imp_right .inr
      · rintro (hname | rfl | hname)
        · exact .inl hname
        · exact .inl h
        · exact .inr hname
    · rw [claimAll_cons_of_not_mem h, ih, List.mem_cons, or_assoc, or_left_comm]

lemma mem_claimAll_iff :
    name ∈ (faults.claimAll fs).1.map (·.faultName) ↔
      name ∉ faults.claimed ∧ name ∈ (faults.claimAll fs).2.claimed := by
  induction fs generalizing faults with
  | nil => simp [claimAll]
  | cons f rest ih =>
    by_cases h : f.faultName ∈ faults.claimed
    · rw [claimAll_cons_of_mem h, ih]
    · rw [claimAll_cons_of_not_mem h, List.map_cons, List.mem_cons, ih, List.mem_cons, not_or]
      by_cases hname : name = f.faultName
      · subst hname
        have hclaimed := List.mem_cons_self (a := f.faultName) (l := faults.claimed)
        simp only [true_or, true_iff]
        exact ⟨h, mem_claimed_claimAll.mpr (.inl hclaimed)⟩
      · simp only [hname, false_or, not_false_eq_true, true_and]

section Repetitions

variable {α : Type} {g : α → Fault} {as : List α}

lemma claimAll_map_filter {p : α → Bool}
    (h : ∀ a ∈ as, p a = false → (g a).faultName ∈ faults.claimed) :
    faults.claimAll ((as.filter p).map g) = faults.claimAll (as.map g) := by
  induction as generalizing faults with
  | nil => rfl
  | cons a rest ih =>
    rw [List.forall_mem_cons] at h
    rw [List.map_cons]
    by_cases ha : (g a).faultName ∈ faults.claimed
    · rw [claimAll_cons_of_mem ha, List.filter_cons]
      split
      · rw [List.map_cons, claimAll_cons_of_mem ha, ih h.2]
      · exact ih h.2
    · have hp : p a = true := by
        rw [← Bool.not_eq_false]
        exact fun hp => ha (h.1 hp)
      have hrest : ∀ b ∈ rest, p b = false →
          (g b).faultName ∈ (⟨(g a).faultName :: faults.claimed⟩ : FaultRegistry).claimed :=
        fun b hb hpb => List.mem_cons_of_mem _ (h.2 b hb hpb)
      rw [List.filter_cons_of_pos hp, List.map_cons, claimAll_cons_of_not_mem ha,
        claimAll_cons_of_not_mem ha, ih hrest]

lemma claimAll_firstOccurrences [DecidableEq α] :
    faults.claimAll ((firstOccurrences as).map g) = faults.claimAll (as.map g) := by
  induction as generalizing faults with
  | nil => rfl
  | cons a rest ih =>
    -- Where an element is met again, its name is claimed: it may stay or go.
    have hrest : ∀ faults : FaultRegistry, (g a).faultName ∈ faults.claimed →
        faults.claimAll (((firstOccurrences rest).filter (· ≠ a)).map g) =
          faults.claimAll (rest.map g) := by
      intro faults ha
      rw [← ih]
      refine claimAll_map_filter fun b _ hb => ?_
      obtain rfl : b = a := by simpa using hb
      exact ha
    rw [firstOccurrences, List.map_cons, List.map_cons]
    by_cases ha : (g a).faultName ∈ faults.claimed
    · rw [claimAll_cons_of_mem ha, claimAll_cons_of_mem ha, hrest faults ha]
    · rw [claimAll_cons_of_not_mem ha, claimAll_cons_of_not_mem ha, hrest _ List.mem_cons_self]

end Repetitions

lemma claimAll_fst :
    (faults.claimAll fs).1 = Fault.firsts (fs.filter (·.faultName ∉ faults.claimed)) := by
  induction fs generalizing faults with
  | nil => rfl
  | cons f rest ih =>
    by_cases h : f.faultName ∈ faults.claimed
    · rw [claimAll_cons_of_mem h, ih, List.filter_cons_of_neg (by simpa using h)]
    · rw [claimAll_cons_of_not_mem h, ih, List.filter_cons_of_pos (by simpa using h), Fault.firsts,
        Fault.firsts, List.eraseDupsBy_cons, List.filter_filter]
      simp only [List.mem_cons, not_or, Bool.decide_and, beq_eq_false_iff_ne, ne_eq]

lemma claimAll_empty_fst : (claimAll {} fs).1 = Fault.firsts fs := by
  have hall : fs.filter (·.faultName ∉ ({} : FaultRegistry).claimed) = fs :=
    List.filter_eq_self.mpr fun f _ => decide_eq_true List.not_mem_nil
  rw [claimAll_fst, hall]

lemma ofExceptions_eq_claimAll {package : String} {settings : Settings} {ts : List Thrown} :
    Fault.ofExceptions package settings faults ts =
      faults.claimAll (ts.map (Fault.ofThrown package settings)) := by
  induction ts generalizing faults with
  | nil => rfl
  | cons t rest ih => simp only [Fault.ofExceptions, ih]; rfl

end FaultRegistry

def Index.declaredFault (index : Index) (settings : Settings) (package : String) (t : TypeExpr) :
    Fault :=
  let exception := index.get? t.base
  let explicit := tagValue? (exception.bind (·.tag? TagName.webFault)) "name"
  let faultName := explicit.getD (t.simpleName ++ settings.faultSuffix)
  { name := Text.qualify package faultName
    faultName
    payloadType := (exception.bind (·.faultInfo)).getD t
    declaredType := t }

def Synthesizer.declaredFaults (s : Synthesizer) (service : TypeInfo) : List Fault :=
  service.methods.flatMap fun m =>
    m.throws.map (s.index.declaredFault s.settings (s.packageOf service))

open FaultRegistry

namespace Index

variable {index : Index} {settings : Settings} {package operation : String}
variable {faults : FaultRegistry}

lemma ofThrown_of_extractThrown {t : TypeExpr} {x : Thrown}
    (h : index.extractThrown operation t = .ok x) :
    Fault.ofThrown package settings x = index.declaredFault settings package t := by
  obtain ⟨info, hi, rfl⟩ := extractThrown_eq h
  simp only [declaredFault, hi, Option.bind_some]
  rfl

lemma claimAll_exceptions {m : MethodInfo} {op : Operation}
    (h : index.extractOperation m = .ok op) :
    faults.claimAll (op.exceptions.map (Fault.ofThrown package settings)) =
      faults.claimAll (m.throws.map (index.declaredFault settings package)) := by
  have hexceptions := (extractOperation_parts h).2.1
  rw [map_eq_of_mapAll hexceptions fun t x htx => ofThrown_of_extractThrown htx,
    claimAll_firstOccurrences]

lemma claimAll_operations {methods : List MethodInfo} {ops : List Operation}
    (h : mapAll index.extractOperation methods = .ok ops) :
    faults.claimAll ((ops.flatMap (·.exceptions)).map (Fault.ofThrown package settings)) =
      faults.claimAll
        (methods.flatMap fun m => m.throws.map (index.declaredFault settings package)) := by
  induction methods generalizing faults ops with
  | nil =>
    rw [mapAll, Except.ok.injEq] at h
    rw [← h]
    rfl
  | cons m rest ih =>
    obtain ⟨op, ops, hop, hops, rfl⟩ := mapAll_cons_ok_iff.mp h
    rw [List.flatMap_cons, List.flatMap_cons, List.map_append, claimAll_append, claimAll_append,
      claimAll_exceptions hop, ih hops]

end Index

namespace Synthesizer

variable {s : Synthesizer} {session session' : Session} {o : InterfaceOutput}

lemma interfaceOutput_claims {service : TypeInfo} (hi : service ∈ s.index.types)
    (h : s.interfaceOutput session service.name = (.ok o, session')) :
    (o.faults, session'.faults) = session.faults.claimAll (s.declaredFaults service) := by
  obtain ⟨described, cs, hx, -, -, -, -, hc, -, hf, -⟩ := interfaceOutput_ok h
  obtain ⟨info, hget, hops, -⟩ := Index.extract_ok hx
  rw [Index.get?_of_mem hi, Option.some.injEq] at hget
  subst hget
  have hfaults := contributeAll_faults hc
  rw [← hf, markPackage_faults, ofExceptions_eq_claimAll, Index.claimAll_operations hops,
    (interfaceOutput_settled hi h).2.1] at hfaults
  exact hfaults

end Synthesizer

end SoapWrap
