import SoapWrap.Proofs.Session.Calls
import SoapWrap.Proofs.Synthesis.ClaimSteps

/-! The names that a session puts together against those of the types. Where the generated package
has no name, the claims of the session and the package marker have a dot in front that no other
type has; everywhere else they all agree. -/

namespace SoapWrap

/-- What a name starts with that is put behind the name of a package and a dot, whether or not the
package has a name. -/
def strayDot (package : String) : String := if package = "" then "." else ""

lemma append_dot (package name : String) :
    package ++ "." ++ name = strayDot package ++ Text.qualify package name := by
  rw [strayDot, Text.qualify]
  split
  · next h => rw [h, String.empty_append]
  · rw [String.empty_append]

lemma Text.qualify_append (package name suffix : String) :
    qualify package name ++ suffix = qualify package (name ++ suffix) := by
  rw [qualify, qualify]
  split
  · rfl
  · rw [String.append_assoc]

def OperationOutput.claims (package : String) (o : OperationOutput) :
    List (String × WrapperClaim) :=
  o.bundles.map fun b =>
    (strayDot package ++ b.wrapper.qualifiedName, ⟨o.operation, b.wrapper.kind⟩)

def InterfaceOutput.claims (o : InterfaceOutput) : List (String × WrapperClaim) :=
  o.operations.flatMap (·.claims o.package)

structure Session.Records (before : Session) (claims : List (String × WrapperClaim))
    (after : Session) : Prop where
  wrappers : after.wrappers = claims.reverse ++ before.wrappers
  distinct : (before.wrappers.map (·.1)).Nodup → (after.wrappers.map (·.1)).Nodup

namespace Session.Records

variable {a b c : Session} {claims more : List (String × WrapperClaim)}

lemma ofEq (h : b.wrappers = a.wrappers) : a.Records [] b :=
  ⟨h, fun hd => h ▸ hd⟩

lemma trans (h : a.Records claims b) (i : b.Records more c) : a.Records (claims ++ more) c where
  wrappers := by rw [i.wrappers, h.wrappers, List.reverse_append, List.append_assoc]
  distinct := i.distinct ∘ h.distinct

lemma claim?_eq_some_iff (h : Records {} claims b) {key : String} {claim : WrapperClaim} :
    b.claim? key = some claim ↔ (key, claim) ∈ claims := by
  rw [claim?, lookup_eq_some_iff_mem (h.distinct List.nodup_nil), h.wrappers, List.append_nil,
    List.mem_reverse]

end Session.Records

namespace Synthesizer

variable {s : Synthesizer} {scope : Scope} {op : Operation} {session session' : Session}
variable {names names' : NameRegistry}

lemma claim_of_wrapper {kind : WrapperKind} {w : Wrapper} (h : scope.wrapper op kind = .ok w) :
    (qualifiedWrapper scope op kind, (⟨op.methodName, kind⟩ : WrapperClaim)) =
      (strayDot scope.package ++ w.qualifiedName, ⟨op.methodName, w.kind⟩) := by
  obtain ⟨-, -, rfl⟩ := Scope.wrapper_ok h
  rw [qualifiedWrapper, append_dot]
  rfl

lemma operationOutput_claims {o : OperationOutput}
    (h : s.operationOutput scope names op = (.ok o, names')) :
    operationClaims scope op = o.claims scope.package := by
  obtain ⟨hname, hq, hr, -⟩ := operationOutput_ok h
  rw [operationClaims, claim_of_wrapper hq, claim_of_wrapper hr, OperationOutput.claims, hname]
  rfl

lemma Generates.records {o : OperationOutput} (h : s.Generates scope session op o session') :
    session.Records (o.claims scope.package) session' := by
  obtain ⟨_, _, ho⟩ := h.output
  have hq := Session.claim?_eq_none.mp h.request_new
  have hr := Session.claim?_eq_none.mp h.response_new
  rw [← operationOutput_claims ho]
  refine ⟨h.wrappers, fun hd => ?_⟩
  rw [h.wrappers]
  simp only [operationClaims, List.reverse_cons, List.reverse_nil, List.nil_append,
    List.cons_append, List.map_cons, List.nodup_cons, List.mem_cons, not_or]
  exact ⟨⟨h.distinct, hr⟩, hq, hd⟩

lemma contribute_records {c : Contribution}
    (h : s.contribute scope session op = (.ok c, session')) :
    session.Records (c.output.toList.flatMap (·.claims scope.package)) session' := by
  rcases contribute_claims h with ⟨-, hnone, hsame⟩ | ⟨o, hsome, hgen⟩
  · rw [hnone]
    exact .ofEq hsame
  · rw [hsome, Option.toList_some, List.flatMap_singleton]
    exact hgen.records

lemma contributeAll_records {ops : List Operation} {cs : List (String × Contribution)}
    (h : s.contributeAll scope session ops = (.ok cs, session')) :
    session.Records ((cs.filterMap (·.2.output)).flatMap (·.claims scope.package)) session' := by
  induction ops generalizing session cs with
  | nil =>
    obtain ⟨rfl, rfl⟩ := contributeAll_nil_ok h
    exact .ofEq rfl
  | cons op rest ih =>
    obtain ⟨⟨faults, output⟩, between, cs', ho, hr, rfl⟩ := contributeAll_cons_ok h
    have hall := (contribute_records ho).trans (ih hr)
    cases output with
    | none => exact hall
    | some o =>
      rw [Option.toList_some, List.flatMap_singleton] at hall
      exact hall

lemma interfaceOutput_records {name : String} {o : InterfaceOutput}
    (h : s.interfaceOutput session name = (.ok o, session')) :
    session.Records o.claims session' := by
  obtain ⟨service, cs, -, -, -, -, -, hc, ho, -⟩ := interfaceOutput_ok h
  have hmark : session.Records [] (markPackage session o.package o.xmlNamespace).2 :=
    .ofEq (markPackage_wrappers o.package o.xmlNamespace)
  rw [InterfaceOutput.claims, ho]
  exact hmark.trans (contributeAll_records hc)

def sessionAfter (s : Synthesizer) (session : Session) (interfaces : List String) : Session :=
  interfaces.foldl (fun session name => (s.interfaceOutput session name).2) session

lemma calls_record {interfaces : List String}
    (h : ∀ c ∈ s.calls session interfaces, c.output?.isSome) :
    session.Records ((outputs (s.calls session interfaces)).flatMap (·.claims))
      (s.sessionAfter session interfaces) := by
  induction interfaces generalizing session with
  | nil => exact .ofEq rfl
  | cons interface rest ih =>
    let c : s.Call := ⟨interface, session⟩
    obtain ⟨hc, hrest⟩ := List.forall_mem_cons.mp h
    obtain ⟨o, ho⟩ := Option.isSome_iff_exists.mp hc
    have hcalls : outputs (s.calls session (interface :: rest)) =
        o :: outputs (s.calls c.after rest) := List.filterMap_cons_some ho
    rw [hcalls, List.flatMap_cons]
    exact (interfaceOutput_records (Call.interfaceOutput_of_some ho)).trans (ih hrest)

end Synthesizer

inductive InterfaceOutput.SimpleName (settings : Settings) (o : InterfaceOutput) :
    TypeDef → String → Prop
  | wrapper {b : Bundle} : b ∈ o.bundles → SimpleName settings o b.wrapper.typeDef b.wrapper.name
  | adapter {b : Bundle} (n : Nat) : b ∈ o.bundles → SimpleName settings o b.adapter.typeDef
      (b.wrapper.name ++ settings.adapterSuffix ++ toString n)
  | factory {b : Bundle} : b ∈ o.bundles → SimpleName settings o b.factory.typeDef
      (b.wrapper.name ++ settings.factorySuffix)
  | fault {f : Fault} : f ∈ o.faults → SimpleName settings o f.typeDef f.faultName

namespace Synthesizer

open InterfaceOutput

variable {s : Synthesizer} {session session' : Session} {name : String} {o : InterfaceOutput}

lemma bundle_simpleName (h : s.interfaceOutput session name = (.ok o, session')) {b : Bundle}
    (hb : b ∈ o.bundles) : ∀ d ∈ b.typeDefs,
      ∃ simple, SimpleName s.settings o d simple ∧ d.name = Text.qualify o.package simple := by
  obtain ⟨output, hout, hbundle⟩ := List.mem_flatMap.mp hb
  obtain ⟨op, names, names', hop⟩ := interfaceOutput_operation h output hout
  obtain ⟨kind, before, after, hw, hbo⟩ := operationOutput_bundle hop b hbundle
  obtain ⟨-, hfactory, hadapter⟩ := bundle_ok hbo
  obtain ⟨-, -, hadapter⟩ := Adapter.ofWrapper_ok hadapter
  have hq : b.wrapper.qualifiedName = Text.qualify o.package b.wrapper.name := by
    rw [Wrapper.qualifiedName, Scope.wrapper_package hw]
  simp only [Bundle.typeDefs, List.forall_mem_cons]
  refine ⟨⟨_, .wrapper hb, hq⟩,
    ⟨_, .adapter (before.freeNumber b.wrapper.qualifiedName s.settings.adapterSuffix) hb, ?_⟩,
    ⟨_, .factory hb, ?_⟩, List.forall_mem_nil _⟩
  · change b.adapter.name = _
    rw [← Text.qualify_append, ← Text.qualify_append, ← hq, hadapter]
    rfl
  · change b.factory.name = _
    rw [← Text.qualify_append, ← hq, hfactory]
    rfl

lemma fault_simpleName (h : s.interfaceOutput session name = (.ok o, session')) {f : Fault}
    (hf : f ∈ o.faults) :
    SimpleName s.settings o f.typeDef f.faultName ∧
      f.typeDef.name = Text.qualify o.package f.faultName := by
  obtain ⟨service, -, hfaults⟩ := interfaceOutput_faults h
  refine ⟨.fault hf, ?_⟩
  rw [hfaults] at hf
  obtain ⟨t, -, rfl⟩ := Fault.mem_ofExceptions hf
  rfl

lemma marker_name (h : s.interfaceOutput session name = (.ok o, session')) {info : PackageInfo}
    (hi : info ∈ o.packageInfo) :
    info.typeDef.name = strayDot o.package ++ Text.qualify o.package "package-info" := by
  rcases interfaceOutput_marks h with ⟨-, hnone, -⟩ | ⟨-, hsome, -⟩
  · rw [hnone] at hi
    cases hi
  · rw [hsome] at hi
    obtain rfl := Option.some.inj hi
    rw [← append_dot, String.append_assoc]
    rfl

theorem session_claims_wrappers_behind_strayDot (s : Synthesizer) (interfaces : List String)
    (h : ∀ c ∈ s.calls {} interfaces, c.output?.isSome) :
    let outputs := outputs (s.calls {} interfaces)
    (∀ key claim, (s.sessionAfter {} interfaces).claim? key = some claim ↔
      ∃ o ∈ outputs, ∃ op ∈ o.operations, ∃ b ∈ op.bundles,
        key = strayDot o.package ++ b.wrapper.qualifiedName ∧
        claim = ⟨op.operation, b.wrapper.kind⟩) ∧
    ∀ o ∈ outputs, ∀ d ∈ o.typeDefs,
      (∃ info ∈ o.packageInfo, d = info.typeDef ∧
        d.name = strayDot o.package ++ Text.qualify o.package "package-info") ∨
      ∃ simple, SimpleName s.settings o d simple ∧ d.name = Text.qualify o.package simple := by
  intro outputs
  constructor
  · intro key claim
    rw [(calls_record h).claim?_eq_some_iff]
    simp only [InterfaceOutput.claims, OperationOutput.claims, List.mem_flatMap, List.mem_map,
      Prod.mk.injEq, eq_comm (b := key), eq_comm (b := claim), outputs]
  · intro o ho d hd
    obtain ⟨c, -, hc⟩ := List.mem_filterMap.mp ho
    have hout := Call.interfaceOutput_of_some hc
    rcases mem_typeDefs_iff.mp hd with ⟨info, hi, rfl⟩ | ⟨b, hb, hdb⟩ | ⟨f, hf, rfl⟩
    · exact .inl ⟨info, hi, rfl, marker_name hout hi⟩
    · exact .inr (bundle_simpleName hout hb d hdb)
    · exact .inr ⟨f.faultName, fault_simpleName hout hf⟩

end Synthesizer

namespace Stall

def service : TypeInfo where
  name := "Stall"
  kind := .interface
  tags := [.ofName TagName.webService]
  methods := [{ name := "sell", throws := [.named "org.acme.Rotten"] }]

def settings : Settings := { packageSuffix := "" }

def market : Index where
  types := [
    service,
    { name := "org.acme.Shop"
      kind := .interface
      tags := [.ofName TagName.webService]
      methods := [{ name := "buy", throws := [.named "org.acme.Rotten"] }, { name := "buy" }] },
    { name := "org.acme.Rotten", kind := .exception }]
  built := rfl

def synthesizer : Synthesizer := .ofIndex market settings

def interfaces : List String := ["org.acme.Shop", "Stall"]

theorem market_claims_wrappers_behind_strayDot :
    let session := synthesizer.sessionAfter {} interfaces
    session.claim? "org.acme.BuyResponse" = some ⟨"buy", .response⟩ ∧
      session.claim? ".Sell" = some ⟨"sell", .request⟩ ∧
      ∀ o ∈ Synthesizer.outputs (synthesizer.calls {} interfaces), ∀ d ∈ o.typeDefs,
        (∃ info ∈ o.packageInfo, d = info.typeDef) ∨
          ∃ simple, d.name = Text.qualify o.package simple := by
  intro session
  obtain ⟨hclaims, htypes⟩ :=
    synthesizer.session_claims_wrappers_behind_strayDot interfaces (by decide +kernel)
  refine ⟨(hclaims _ _).mpr (by decide +kernel), (hclaims _ _).mpr (by decide +kernel), ?_⟩
  intro o ho d hd
  rcases htypes o ho d hd with ⟨info, hi, hinfo, -⟩ | ⟨simple, -, hname⟩
  · exact .inl ⟨info, hi, hinfo⟩
  · exact .inr ⟨simple, hname⟩

def alone : Index where
  types := [{ service with methods := [{ name := "sell" }] }]
  built := rfl

theorem stall_claims_other_names :
    let s : Synthesizer := .ofIndex alone settings
    let outputs := Synthesizer.outputs (s.calls {} ["Stall"])
    (s.calls {} ["Stall"]).map (·.output?.isSome) = [true] ∧
      (s.sessionAfter {} ["Stall"]).wrappers.map (·.1) = [".SellResponse", ".Sell"] ∧
      outputs.flatMap (fun o => o.bundles.map (·.wrapper.qualifiedName)) =
        ["Sell", "SellResponse"] ∧
      outputs.flatMap (fun o => o.packageInfo.toList.map (·.typeDef.name)) = [".package-info"] ∧
      outputs.map (fun o => Text.qualify o.package "package-info") = ["package-info"] := by
  decide +kernel

end Stall

end SoapWrap
