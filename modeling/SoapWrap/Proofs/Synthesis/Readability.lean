import SoapWrap.Metadata.Load
import SoapWrap.Proofs.Synthesis.FaultSteps
import SoapWrap.Proofs.Synthesis.Extraction
import SoapWrap.Proofs.Synthesis.Writing

namespace SoapWrap

namespace Index

def Parsed (index : Index) : Prop := ∀ info ∈ index.types, ∀ t ∈ info.typeExprs, t.Parsed

/-- No method of an index has so many parameters that their slots would leave their words. -/
def Moderate (index : Index) : Prop :=
  ∀ info ∈ index.types, ∀ m ∈ info.methods, m.params.length < 2 ^ 62

instance : DecidableEq Index := fun a b =>
  decidable_of_iff (a.types = b.types) ⟨eq_of_types, fun h => h ▸ rfl⟩

variable {index : Index}

lemma types_ofTypes {types : List TypeInfo} (h : ofTypes types = .ok index) :
    index.types = types := by
  rw [ofTypes] at h
  split at h
  · cases h
  · rw [← Except.ok.inj h]

lemma parsed_ofDocument {δ : Type} [Document δ] {d : δ} (h : ofDocument d = .ok index) :
    index.Parsed := by
  rw [ofDocument] at h
  split at h
  · next types htypes =>
    rw [Parsed, types_ofTypes h]
    exact TypeInfo.yields_parsed.list d types htypes
  · cases h

lemma parsed_ofText {δ : Type} [Document δ] {read : String → Option δ} {text : String}
    (h : ofText read text = .ok index) : index.Parsed := by
  rw [ofText] at h
  split at h
  · exact parsed_ofDocument h
  · cases h

lemma parsed_of_text {text : String}
    (h : ofJsonText text = .ok index ∨ ofYamlText text = .ok index) : index.Parsed :=
  h.elim parsed_ofText parsed_ofText

lemma ofJsonText_of_parse {text : String} {j : Json} (h : Json.parse text = some j) :
    ofJsonText text = ofDocument j := by
  rw [ofJsonText, ofText, h]

lemma ofJsonText_ofList {cs : List Char} {j : Json} (h : Json.read cs = some j) :
    ofJsonText (.ofList cs) = ofDocument j :=
  ofJsonText_of_parse (by rw [Json.parse, String.toList_ofList, h])

end Index

structure Operation.Readable (op : Operation) : Prop where
  params : ∀ p ∈ op.params, p.declaredType.Parsed
  result : op.result.declaredType.Parsed
  payloads : ∀ t ∈ op.exceptions, t.payloadType.Parsed

namespace Index

variable {index : Index} {name : String} {service : ServiceInterface}

lemma thrown_parsed (hindex : index.Parsed) {t : TypeExpr} {x : Thrown} (ht : t.Parsed)
    (h : index.extractThrown name t = .ok x) : x.payloadType.Parsed := by
  obtain ⟨info, hi, rfl⟩ := extractThrown_eq h
  cases hfault : info.faultInfo with
  | none => exact ht
  | some payload =>
    refine hindex info (mem_of_get? hi) payload (List.mem_append_right _ ?_)
    exact Option.mem_toList.mpr hfault

lemma operations_readable (hindex : index.Parsed) (h : index.extract name = .ok service) :
    ∀ op ∈ service.operations, op.Readable := by
  intro op hop
  obtain ⟨info, hi, m, hm, hmop⟩ := extract_operations h op hop
  have hparsed : ∀ t ∈ m.typeExprs, t.Parsed := fun t ht =>
    hindex info hi t (List.mem_append_left _ (List.mem_flatMap.mpr ⟨m, hm, ht⟩))
  rw [MethodInfo.typeExprs, List.forall_mem_append, List.forall_mem_map,
    List.forall_mem_cons] at hparsed
  obtain ⟨hparams, hreturns, hthrows⟩ := hparsed
  obtain ⟨hparam, hexception, hresult⟩ := extractOperation_parts hmop
  constructor
  · intro q hq
    obtain ⟨p, hp, hpq⟩ := mem_of_mapAll hparam hq
    exact extractParam_declaredType hpq ▸ hparams p hp
  · exact hresult ▸ hreturns
  · intro x hx
    obtain ⟨t, ht, htx⟩ := mem_of_mapAll hexception hx
    exact thrown_parsed hindex (hthrows t (mem_firstOccurrences.mp ht)) htx

lemma length_params_lt (hindex : index.Moderate) (h : index.extract name = .ok service) :
    ∀ op ∈ service.operations, op.params.length < 2 ^ 62 := by
  intro op hop
  obtain ⟨info, hi, m, hm, hmop⟩ := extract_operations h op hop
  have hlength := congrArg List.length (mapAll_ok (extractOperation_parts hmop).1)
  rw [List.length_map, List.length_map] at hlength
  exact hlength ▸ hindex info hi m hm

end Index

namespace Scope

variable {op : Operation}

lemma mem_paramElements {position : Nat} {ps : List Parameter} {e : Element}
    (h : e ∈ paramElements position ps) : ∃ p ∈ ps, e.declaredType = p.declaredType := by
  induction ps generalizing position with
  | nil => cases h
  | cons p rest ih =>
    rcases List.mem_cons.mp h with rfl | h
    · exact ⟨p, List.mem_cons_self, rfl⟩
    · obtain ⟨q, hq, he⟩ := ih h
      exact ⟨q, List.mem_cons_of_mem p hq, he⟩

lemma length_paramElements (position : Nat) (ps : List Parameter) :
    (paramElements position ps).length = ps.length := by
  induction ps generalizing position with
  | nil => rfl
  | cons p rest ih => rw [paramElements, List.length_cons, List.length_cons, ih]

lemma elements_parsed (hparams : ∀ p ∈ op.params, p.declaredType.Parsed)
    (hresult : op.result.declaredType.Parsed) (kind : WrapperKind) :
    ∀ e ∈ elements kind op, e.declaredType.Parsed := by
  have htravelling : ∀ e ∈ paramElements 0 (op.params.filter (travels kind)),
      e.declaredType.Parsed := by
    intro e he
    obtain ⟨p, hp, hep⟩ := mem_paramElements he
    exact hep ▸ hparams p (List.mem_filter.mp hp).1
  cases kind with
  | request => exact htravelling
  | response =>
    rw [elements]
    split
    · exact htravelling
    · exact List.forall_mem_cons.mpr ⟨hresult, htravelling⟩

lemma elements_readable (h : op.Readable) (kind : WrapperKind) :
    ∀ e ∈ elements kind op, e.declaredType.Parsed :=
  elements_parsed h.params h.result kind

lemma length_elements_le (kind : WrapperKind) (op : Operation) :
    (elements kind op).length ≤ op.params.length + 1 := by
  have hparams : (paramElements 0 (op.params.filter (travels kind))).length ≤ op.params.length := by
    rw [length_paramElements]
    exact List.length_filter_le _ _
  cases kind with
  | request => exact Nat.le_succ_of_le hparams
  | response =>
    rw [elements]
    split
    · exact Nat.le_succ_of_le hparams
    · exact Nat.succ_le_succ hparams

end Scope

structure Bundle.Readable (b : Bundle) : Prop where
  wrapper : TypeExpr.IsName b.wrapper.qualifiedName.toList
  companion : ∀ c ∈ b.adapter.objectFactory, TypeExpr.IsName c.toList

instance (name : List Char) : Decidable (TypeExpr.IsName name) :=
  decidable_of_iff (name ≠ [] ∧ name.all TypeExpr.isNameChar = true)
    (and_congr_right fun _ => by
      simp only [List.all_eq_true, TypeExpr.isNameChar_iff])

instance (b : Bundle) : Decidable b.Readable :=
  decidable_of_iff (TypeExpr.IsName b.wrapper.qualifiedName.toList ∧
      ∀ c ∈ b.adapter.objectFactory, TypeExpr.IsName c.toList)
    ⟨fun h => ⟨h.1, h.2⟩, fun h => ⟨h.wrapper, h.companion⟩⟩

namespace Synthesizer

variable {s : Synthesizer} {scope : Scope} {op : Operation} {kind : WrapperKind} {b : Bundle}
variable {names names' : NameRegistry} {session session' : Session} {name : String}
variable {o : InterfaceOutput}

lemma bundle_plain (hparams : op.params.length < 2 ^ 62)
    (hw : scope.wrapper op kind = .ok b.wrapper)
    (hb : s.bundle names b.wrapper = .ok (b, names')) : ∀ d ∈ b.typeDefs, d.Plain := by
  obtain ⟨-, hfactory, hadapter⟩ := bundle_ok hb
  obtain ⟨-, -, ha⟩ := Adapter.ofWrapper_ok hadapter
  have hfields : b.wrapper.fields.length ≤ 2 ^ 62 := by
    rw [congrArg Wrapper.fields (Scope.wrapper_ok hw).2.2, List.length_map]
    have hlength := Scope.length_elements_le kind op
    omega
  have hconstruct : b.adapter.construct.length = b.wrapper.fields.length := by
    rw [ha, List.length_map]
  have hdecompose : b.adapter.decompose.length = b.wrapper.fields.length := by
    rw [ha, List.length_map]
  rw [Bundle.typeDefs, List.forall_mem_cons, forall_mem_pair, hfactory]
  exact ⟨b.wrapper.typeDef_plain,
    Adapter.typeDef_plain (hconstruct ▸ hfields) (hdecompose ▸ hfields),
    Factory.typeDef_plain s.settings b.wrapper⟩

lemma bundle_parsed_iff (hop : op.Readable) (hw : scope.wrapper op kind = .ok b.wrapper)
    (hb : s.bundle names b.wrapper = .ok (b, names')) :
    (∀ d ∈ b.typeDefs, ∀ t ∈ d.typeExprs, t.Parsed) ↔ b.Readable := by
  obtain ⟨-, hfactory, hadapter⟩ := bundle_ok hb
  obtain ⟨-, -, ha⟩ := Adapter.ofWrapper_ok hadapter
  have hwrapper : b.adapter.wrapper = b.wrapper.qualifiedName := by rw [ha]
  have hfields : ∀ f ∈ b.wrapper.fields, f.declaredType.Parsed := by
    rw [congrArg Wrapper.fields (Scope.wrapper_ok hw).2.2, List.forall_mem_map]
    exact Scope.elements_readable hop kind
  rw [Bundle.typeDefs, List.forall_mem_cons, forall_mem_pair, Adapter.typeExprs_parsed_iff,
    Factory.typeExprs_parsed_iff, hfactory, hwrapper]
  constructor
  · rintro ⟨-, ⟨hname, hcompanion⟩, -⟩
    exact ⟨hname, hcompanion⟩
  · rintro ⟨hname, hcompanion⟩
    exact ⟨Wrapper.typeExprs_parsed hfields, ⟨hname, hcompanion⟩, hname⟩

lemma interfaceOutput_declared (h : s.interfaceOutput session name = (.ok o, session')) :
    ∀ b ∈ o.bundles, ∃ (service : ServiceInterface) (op : Operation) (scope : Scope)
      (kind : WrapperKind) (names names' : NameRegistry), s.index.extract name = .ok service ∧
        op ∈ service.operations ∧ scope.wrapper op kind = .ok b.wrapper ∧
        s.bundle names b.wrapper = .ok (b, names') := by
  obtain ⟨service, cs, hx, -, -, -, -, hc, ho, -⟩ := interfaceOutput_ok h
  intro b hb
  obtain ⟨output, hout, hb⟩ := List.mem_flatMap.mp hb
  rw [ho] at hout
  obtain ⟨c, hcs, hoc⟩ := List.mem_filterMap.mp hout
  obtain ⟨op, hop, names, names', hmade⟩ := contributeAll_output hc c hcs output hoc
  obtain ⟨kind, before, after, hw, hbundle⟩ := operationOutput_bundle hmade b hb
  exact ⟨service, op, _, kind, before, after, hx, hop, hw, hbundle⟩

lemma interfaceOutput_plain (hindex : s.index.Moderate)
    (h : s.interfaceOutput session name = (.ok o, session')) : ∀ d ∈ o.typeDefs, d.Plain := by
  intro d hd
  rcases InterfaceOutput.mem_typeDefs_iff.mp hd with ⟨p, -, rfl⟩ | ⟨b, hb, hd⟩ | ⟨f, -, rfl⟩
  · exact p.typeDef_plain
  · obtain ⟨service, op, scope, kind, names, names', hx, hop, hw, hbundle⟩ :=
      interfaceOutput_declared h b hb
    exact bundle_plain (Index.length_params_lt hindex hx op hop) hw hbundle d hd
  · exact f.typeDef_plain

lemma interfaceOutput_parsed_iff (hindex : s.index.Parsed)
    (h : s.interfaceOutput session name = (.ok o, session')) :
    (∀ d ∈ o.typeDefs, ∀ t ∈ d.typeExprs, t.Parsed) ↔ ∀ b ∈ o.bundles, b.Readable := by
  have hbundle : ∀ b ∈ o.bundles,
      ((∀ d ∈ b.typeDefs, ∀ t ∈ d.typeExprs, t.Parsed) ↔ b.Readable) := by
    intro b hb
    obtain ⟨service, op, scope, kind, names, names', hx, hop, hw, hmade⟩ :=
      interfaceOutput_declared h b hb
    exact bundle_parsed_iff (Index.operations_readable hindex hx op hop) hw hmade
  constructor
  · intro hparsed b hb
    exact (hbundle b hb).mp fun d hd => hparsed d (InterfaceOutput.mem_typeDefs hb hd)
  · intro hreadable d hd
    rcases InterfaceOutput.mem_typeDefs_iff.mp hd with ⟨p, -, rfl⟩ | ⟨b, hb, hd⟩ | ⟨f, hf, rfl⟩
    · exact List.forall_mem_nil _
    · exact (hbundle b hb).mpr (hreadable b hb) d hd
    · obtain ⟨service, hx, hfaults⟩ := interfaceOutput_faults h
      rw [hfaults] at hf
      obtain ⟨t, ht, rfl⟩ := Fault.mem_ofExceptions hf
      obtain ⟨op, hop, ht⟩ := List.mem_flatMap.mp ht
      exact Fault.typeExprs_parsed ((Index.operations_readable hindex hx op hop).payloads t ht)

end Synthesizer

end SoapWrap
