import SoapWrap.Proofs.Session.FirstRun
import SoapWrap.Proofs.Synthesis.FaultSteps
import SoapWrap.Proofs.Synthesis.MethodList
import SoapWrap.Proofs.Synthesis.Settlement

/-! On a new session the order of the methods of an interface decides only the order of its types. -/

namespace SoapWrap

namespace Synthesizer

variable {s : Synthesizer} {info : TypeInfo} {methods methods' : List MethodInfo}
variable {ops ops' : List Operation} {outputs outputs' : List OperationOutput}

def scopeOf (s : Synthesizer) (info : TypeInfo) : Scope where
  index := s.index
  package := s.packageOf info
  xmlNamespace := (Index.tagValue? (info.tag? TagName.webService) "targetNamespace").getD
    (Naming.deriveNamespace info.package)
  settings := s.settings

structure Yields (s : Synthesizer) (info : TypeInfo) (methods : List MethodInfo)
    (ops : List Operation) (outputs : List OperationOutput) : Prop where
  extracted : mapAll s.index.extractOperation methods = .ok ops
  distinct : (ops.flatMap (wrapperNames (s.scopeOf info))).Nodup
  outputs : mapAll (s.firstOutput (s.scopeOf info)) ops = .ok outputs

lemma Yields.perm (h : s.Yields info methods ops outputs) (hp : methods.Perm methods') :
    ∃ ops' outputs', s.Yields info methods' ops' outputs' ∧ ops.Perm ops' ∧
      outputs.Perm outputs' := by
  obtain ⟨ops', hextracted, hops⟩ := mapAll_perm hp h.extracted
  obtain ⟨outputs', hout, houtputs⟩ := mapAll_perm hops h.outputs
  have hdistinct := (hops.flatMap_right (wrapperNames (s.scopeOf info))).nodup_iff.mp h.distinct
  exact ⟨ops', outputs', ⟨hextracted, hdistinct, hout⟩, hops, houtputs⟩

lemma Yields.unique (h : s.Yields info methods ops outputs)
    (h' : s.Yields info methods ops' outputs') : ops = ops' ∧ outputs = outputs' := by
  obtain rfl := Except.ok.inj (h.extracted.symm.trans h'.extracted)
  exact ⟨rfl, Except.ok.inj (h.outputs.symm.trans h'.outputs)⟩

section WithMethods

variable (name : String) (others : List MethodInfo)

lemma firstOutput_withMethods (scope : Scope) :
    (s.withMethods name others).firstOutput (scope.withMethods name others) =
      s.firstOutput scope := by
  funext op
  have hbundle : (s.withMethods name others).firstBundle = s.firstBundle := by
    funext w
    rw [firstBundle, firstBundle, withMethods, Adapter.ofWrapper_withMethods]
  simp only [firstOutput, Scope.wrapper_withMethods, hbundle]

lemma scopeOf_withMethods : (s.withMethods name others).scopeOf (info.withMethods name others) =
    (s.scopeOf info).withMethods name others := by
  simp only [scopeOf, packageOf, TypeInfo.package, TypeInfo.tag?, TypeInfo.withMethods_name,
    TypeInfo.withMethods_tags]
  rfl

lemma yields_withMethods_iff :
    (s.withMethods name others).Yields (info.withMethods name others) methods ops outputs ↔
      s.Yields info methods ops outputs := by
  have hextract : (s.withMethods name others).index.extractOperation = s.index.extractOperation :=
    s.index.extractOperation_withMethods name others
  have hout := firstOutput_withMethods (s := s) name others (s.scopeOf info)
  constructor
  · rintro ⟨he, hd, ho⟩
    rw [scopeOf_withMethods] at hd ho
    exact ⟨hextract ▸ he, hd, hout ▸ ho⟩
  · rintro ⟨he, hd, ho⟩
    refine ⟨hextract ▸ he, ?_, ?_⟩
    · rw [scopeOf_withMethods]
      exact hd
    · rw [scopeOf_withMethods, hout]
      exact ho

end WithMethods

lemma markPackage_new (package xmlNamespace : String) :
    markPackage {} package xmlNamespace =
      (some (.ofPackage package xmlNamespace), { packages := [package] }) := by
  rw [markPackage, if_neg List.not_mem_nil]

section Interface

variable (hi : info ∈ s.index.types) (hp : s.settings.packageSuffix ≠ "")
variable (hn : (info.methods.map fun m => Naming.capitalize m.name).Nodup)

include hn in
lemma ready_of_extracted (hx : mapAll s.index.extractOperation info.methods = .ok ops)
    (packages : List String) : s.Ready (s.scopeOf info) { packages } ops where
  firstNamed := by simp [FirstNamed]
  requests := by
    have hmethods : ops.map (·.methodName) = info.methods.map (·.name) :=
      map_eq_of_mapAll hx fun m op hop => (Index.extractOperation_ok hop).1
    let requestName (capitalized : String) : String :=
      s.packageOf info ++ "." ++ (capitalized ++ s.settings.requestSuffix)
    have hrequests : (ops.map fun op => qualifiedWrapper (s.scopeOf info) op .request) =
        (info.methods.map fun m => Naming.capitalize m.name).map requestName := by
      calc
        _ = (ops.map (·.methodName)).map (requestName ∘ Naming.capitalize) := by
          rw [List.map_map]
          rfl
        _ = _ := by
          rw [hmethods, List.map_map, List.map_map]
          rfl
    rw [hrequests]
    refine hn.map fun a b he => ?_
    rwa [String.append_right_inj, String.append_left_inj] at he
  notOverloads := fun _ _ => rfl

include hi hp hn

lemma yields_of_ok {o : InterfaceOutput} (h : (s.interfaceOutput {} info.name).1 = .ok o) :
    ∃ ops, s.Yields info info.methods ops o.operations ∧
      o.packageInfo = some (.ofPackage (s.scopeOf info).package (s.scopeOf info).xmlNamespace) ∧
      o.faults = (Fault.ofExceptions (s.scopeOf info).package s.settings {}
        (ops.flatMap (·.exceptions))).1 := by
  rcases ho : s.interfaceOutput {} info.name with ⟨r, session'⟩
  rw [ho] at h
  obtain rfl : r = .ok o := h
  obtain ⟨service, cs, hx, -, hpackage, hns, hmark, hc, hops, hfaults, -⟩ := interfaceOutput_ok ho
  obtain ⟨other, hother, hextracted, hname, htarget⟩ := Index.extract_ok hx
  rw [Index.get?_of_mem hi] at hother
  obtain rfl := Option.some.inj hother
  have hscope : (⟨s.index, o.package, o.xmlNamespace, s.settings⟩ : Scope) = s.scopeOf info := by
    rw [hpackage, hns, ServiceInterface.effectiveNamespace, ServiceInterface.package, hname,
      htarget]
    rfl
  have hp' : o.package = (s.scopeOf info).package := congrArg Scope.package hscope
  have hns' : o.xmlNamespace = (s.scopeOf info).xmlNamespace := congrArg Scope.xmlNamespace hscope
  rw [hscope, hp', hns', markPackage_new] at hc
  rw [hp', hns', markPackage_new] at hmark
  have hready := ready_of_extracted hn hextracted [(s.scopeOf info).package]
  obtain ⟨hnew, hout⟩ :=
    contributeAll_enters (Settings.generatedPackage_ne_empty hp _) hready hc
  rw [← hops] at hout
  have hthrown := congrArg Prod.fst (contributeAll_faults hc)
  exact ⟨service.operations, ⟨hextracted, hnew.1, hout⟩, hmark, hfaults.trans hthrown⟩

lemma ok_of_yields (h : s.Yields info info.methods ops outputs) :
    ∃ o, (s.interfaceOutput {} info.name).1 = .ok o := by
  have hready := ready_of_extracted hn h.extracted [s.packageOf info]
  obtain ⟨cs, session', hc⟩ := contributeAll_of_new (Settings.generatedPackage_ne_empty hp _) hready
    ⟨h.distinct, List.disjoint_nil_right _⟩ h.outputs
  rcases ho : s.interfaceOutput {} info.name with ⟨e | o, after⟩
  · exfalso
    rw [interfaceOutput, Index.extract_of_mem hi h.extracted] at ho
    simp only [markPackage_new] at ho
    split at ho
    · next he => cases hc.symm.trans he
    · cases ho
  · exact ⟨o, rfl⟩

theorem interfaceOutput_ignores_method_order
    (ha : ∀ service, s.index.extract info.name = .ok service →
      Thrown.Agree s.settings (service.operations.flatMap (·.exceptions)))
    (hm : methods.Perm info.methods) :
    ((∃ o, ((s.withMethods info.name methods).interfaceOutput {} info.name).1 = .ok o) ↔
        ∃ o, (s.interfaceOutput {} info.name).1 = .ok o) ∧
      ∀ o o', (s.interfaceOutput {} info.name).1 = .ok o →
        ((s.withMethods info.name methods).interfaceOutput {} info.name).1 = .ok o' →
        o.typeDefs.Perm o'.typeDefs ∧ o.operations.Perm o'.operations ∧
          (o.faults.map (·.typeDef)).Perm (o'.faults.map (·.typeDef)) := by
  have hi' : { info with methods } ∈ (s.withMethods info.name methods).index.types := by
    rw [← info.withMethods_self]
    exact List.mem_map_of_mem hi
  have hn' : (methods.map fun m => Naming.capitalize m.name).Nodup :=
    (hm.map _).nodup_iff.mpr hn
  have hyields : ∀ {methods' ops outputs}, (s.withMethods info.name methods).Yields
      { info with methods } methods' ops outputs ↔ s.Yields info methods' ops outputs := by
    intro methods' ops outputs
    rw [← info.withMethods_self]
    exact yields_withMethods_iff info.name methods
  refine ⟨⟨?_, ?_⟩, ?_⟩
  · rintro ⟨o, ho⟩
    obtain ⟨ops, h, -⟩ := yields_of_ok hi' hp hn' ho
    obtain ⟨ops', outputs', h', -⟩ := (hyields.mp h).perm hm
    exact ok_of_yields hi hp hn h'
  · rintro ⟨o, ho⟩
    obtain ⟨ops, h, -⟩ := yields_of_ok hi hp hn ho
    obtain ⟨ops', outputs', h', -⟩ := h.perm hm.symm
    have hok := ok_of_yields hi' hp hn' (hyields.mpr h')
    exact hok
  · intro o o' ho ho'
    -- The outputs of the first order, permuted, are the only ones that the second can have.
    obtain ⟨ops, h, hinfo, hfaults⟩ := yields_of_ok hi hp hn ho
    obtain ⟨ops', h', hinfo', hfaults'⟩ := yields_of_ok hi' hp hn' ho'
    obtain ⟨ops'', outputs'', h'', hops, houtputs⟩ := h.perm hm.symm
    obtain ⟨rfl, rfl⟩ := h''.unique (hyields.mp h')
    have hagree := ha _ (Index.extract_of_mem hi h.extracted)
    have hf : (o.faults.map (·.typeDef)).Perm (o'.faults.map (·.typeDef)) := by
      rw [hfaults, hfaults']
      exact Fault.ofExceptions_perm hagree (hops.flatMap_right _)
    refine ⟨?_, houtputs, hf⟩
    rw [InterfaceOutput.typeDefs, InterfaceOutput.typeDefs, hinfo, hinfo']
    exact ((List.Perm.refl _).append (houtputs.flatMap_right _)).append hf

end Interface

theorem interfaceOutput_ignores_method_order_bakery :
    Bakery.reversed ≠ Bakery.service.methods ∧ ∃ o o',
      (Bakery.synthesizer.interfaceOutput {} Bakery.service.name).1 = .ok o ∧
      ((ofIndex (Bakery.index.withMethods Bakery.service.name Bakery.reversed) {}).interfaceOutput
        {} Bakery.service.name).1 = .ok o' ∧ o.typeDefs.Perm o'.typeDefs := by
  rw [← ofIndex_withMethods]
  have hagree : ∀ described, Bakery.index.extract Bakery.service.name = .ok described →
      Thrown.Agree {} (described.operations.flatMap (·.exceptions)) := by
    have hcheck : (match Bakery.index.extract Bakery.service.name with
        | .ok described => decide (Thrown.Agree {} (described.operations.flatMap (·.exceptions)))
        | .error _ => false) = true := by
      decide +kernel
    intro described hx
    rw [hx] at hcheck
    exact of_decide_eq_true hcheck
  have hsome : (Bakery.synthesizer.interfaceOutput {} Bakery.service.name).1.isOk = true := by
    decide +kernel
  have hin : Bakery.service ∈ Bakery.synthesizer.index.types := List.mem_cons_self
  obtain ⟨hiff, hperm⟩ := interfaceOutput_ignores_method_order hin (by decide) (by decide +kernel)
    hagree (List.reverse_perm Bakery.service.methods)
  cases ho : (Bakery.synthesizer.interfaceOutput {} Bakery.service.name).1 with
  | error e =>
    rw [ho] at hsome
    cases hsome
  | ok o =>
    obtain ⟨o', ho'⟩ := hiff.mpr ⟨o, ho⟩
    exact ⟨by decide, o, o', rfl, ho', (hperm o o' ho ho').1⟩

end Synthesizer

end SoapWrap
