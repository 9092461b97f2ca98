import SoapWrap.Proofs.Code.Grounding
import SoapWrap.Proofs.Machine.Accessors
import SoapWrap.Proofs.Synthesis.Extraction
import SoapWrap.Proofs.Synthesis.FaultSteps

namespace SoapWrap

namespace Codebase

variable {c : Codebase} {w : Wrapper} {a : Adapter} {fields : List String}

lemma knows_wrapper (hw : w.typeDef ∈ c.emitted) : c.Knows (.named w.qualifiedName) :=
  knows_named (.emitted hw)

lemma grounds_newWrapper (hw : w.typeDef ∈ c.emitted) (dst : Nat) :
    c.Grounds fields (.allocate dst w.qualifiedName []) :=
  .allocateEmitted hw rfl rfl

lemma groundsMethod_empty : c.GroundsMethod fields (.ofConstructor [] [.return none]) where
  params := by simp [MethodDef.ofConstructor]
  returns := knows_void
  body := List.forall_mem_singleton.mpr .return

lemma wrapper_grounded (h : ∀ f ∈ w.fields, c.Knows f.declaredType) : c.GroundsType w.typeDef where
  fields := by
    intro d hd
    obtain ⟨f, hf, rfl⟩ := List.mem_map.mp hd
    exact h f hf
  methods := by
    intro m hm
    rcases List.mem_cons.mp hm with rfl | hm
    · exact groundsMethod_empty
    · obtain ⟨f, hf, hm⟩ := List.mem_flatMap.mp hm
      have hn : f.name ∈ w.typeDef.fields.map (·.name) :=
        List.mem_map_of_mem (List.mem_map_of_mem hf)
      rcases List.mem_pair.mp hm with rfl | rfl
      · refine ⟨by simp [Wrapper.getterDef, MethodDef.ofInstance], h f hf, ?_⟩
        exact forall_mem_pair.mpr ⟨.readField hn, .return⟩
      · refine ⟨List.forall_mem_singleton.mpr (h f hf), knows_void, ?_⟩
        exact forall_mem_pair.mpr ⟨.writeField hn, .return⟩

section Accessors

variable (hw : w.typeDef ∈ c.emitted) (hd : w.Distinct) {f : WrapperField}
include hw hd

lemma grounds_getter (hf : f ∈ w.fields) (dst : Option Nat) :
    c.Grounds fields (.invoke dst (.param 0) ⟨w.qualifiedName, f.getter⟩ []) :=
  .invokeEmitted hw (hd.instanceMethod?_getter hf) rfl

lemma grounds_setter (hf : f ∈ w.fields) (slot : Nat) :
    c.Grounds fields (Adapter.setterCall w.qualifiedName f.setter slot) :=
  .invokeEmitted hw (hd.instanceMethod?_setter hf) rfl

variable (shape : WrapperField → FieldShape)

lemma grounds_populateOps {fs : List WrapperField} (hfs : ∀ f ∈ fs, f ∈ w.fields)
    (position slot : Nat) :
    ∀ op ∈ Adapter.populateOps w.qualifiedName position slot
      (fs.map fun f => (shape f).constructStep f), c.Grounds fields op := by
  induction fs generalizing position slot with
  | nil => simp [Adapter.populateOps]
  | cons f rest ih =>
    rw [List.forall_mem_cons] at hfs
    have hget : ∀ position slot, c.Grounds fields (.invoke (some slot) (.param 1)
        ⟨Intrinsic.listType, Intrinsic.listGet⟩ [.const (.int position)]) :=
      fun _ _ => .invokeIntrinsic (by simp [Intrinsic.methods])
    have hset : ∀ slot, c.Grounds fields (Adapter.setterCall w.qualifiedName f.setter slot) :=
      grounds_setter hw hd hfs.1
    rw [List.map_cons]
    cases shape f with
    | list =>
      simp only [FieldShape.constructStep, Adapter.populateOps, List.forall_mem_cons]
      refine ⟨hget _ _, grounds_getter hw hd hfs.1 _, ?_, ih hfs.2 _ _⟩
      apply Grounds.branchOnNull
      · exact List.forall_mem_singleton.mpr (hset slot)
      · exact List.forall_mem_singleton.mpr (.invokeIntrinsic (by simp [Intrinsic.methods]))
    | holder =>
      simp only [FieldShape.constructStep, Adapter.populateOps, List.forall_mem_cons]
      exact ⟨hget _ _, hset slot, ih hfs.2 _ _⟩
    | single =>
      simp only [FieldShape.constructStep, Adapter.populateOps, List.forall_mem_cons]
      exact ⟨hget _ _, hset slot, ih hfs.2 _ _⟩

lemma grounds_decomposeOps {fs : List WrapperField} (hfs : ∀ f ∈ fs, f ∈ w.fields) (slot : Nat) :
    ∀ op ∈ Adapter.decomposeOps w.qualifiedName slot
      (fs.map fun f => (shape f).decomposeStep f), c.Grounds fields op := by
  have hpush : ∀ slot, c.Grounds fields (Adapter.pushCall slot) :=
    fun _ => .invokeIntrinsic (by simp [Intrinsic.methods])
  induction fs generalizing slot with
  | nil => simp [Adapter.decomposeOps]
  | cons f rest ih =>
    rw [List.forall_mem_cons] at hfs
    have hget : c.Grounds fields _ := grounds_getter hw hd hfs.1 (some slot)
    rw [List.map_cons]
    cases shape f with
    | list =>
      simp only [FieldShape.decomposeStep, Adapter.decomposeOps, List.forall_mem_cons]
      exact ⟨hget, hpush slot, ih hfs.2 _⟩
    | single =>
      simp only [FieldShape.decomposeStep, Adapter.decomposeOps, List.forall_mem_cons]
      exact ⟨hget, hpush slot, ih hfs.2 _⟩
    | holder =>
      simp only [FieldShape.decomposeStep, Adapter.decomposeOps, List.forall_mem_cons]
      refine ⟨hget, ?_, ih hfs.2 _⟩
      apply Grounds.branchOnNull
      · exact List.forall_mem_singleton.mpr (hpush slot)
      · exact forall_mem_pair.mpr ⟨.invokeIntrinsic (by simp [Intrinsic.methods]), hpush _⟩

lemma grounds_populateBody (hwrapper : a.wrapper = w.qualifiedName)
    (hconstruct : a.construct = w.fields.map fun f => (shape f).constructStep f) :
    ∀ op ∈ a.populateBody, c.Grounds fields op := by
  rw [Adapter.populateBody, hwrapper, hconstruct, List.forall_mem_append]
  exact ⟨grounds_populateOps hw hd shape (fun _ hf => hf) 0 0, List.forall_mem_singleton.mpr .return⟩

lemma grounds_decomposeBody (hwrapper : a.wrapper = w.qualifiedName)
    (hdecompose : a.decompose = w.fields.map fun f => (shape f).decomposeStep f) :
    ∀ op ∈ a.decomposeBody, c.Grounds fields op := by
  rw [Adapter.decomposeBody, List.cons_append, List.forall_mem_cons, hwrapper, hdecompose,
    List.forall_mem_append]
  exact ⟨.allocateList, grounds_decomposeOps hw hd shape (fun _ hf => hf) 1,
    List.forall_mem_singleton.mpr .return⟩

end Accessors

lemma grounds_constructorBody (hc : ∀ factory ∈ a.objectFactory,
    factory = c.settings.companionFor w.package ∧ c.index.contains factory = true) :
    ∀ op ∈ a.constructorBody, c.Grounds (a.typeDef.fields.map (·.name)) op := by
  cases ho : a.objectFactory with
  | none =>
    rw [Adapter.constructorBody, ho]
    exact List.forall_mem_singleton.mpr .return
  | some factory =>
    obtain ⟨rfl, hi⟩ := hc factory ho
    -- The field stands in the type exactly where the body writes it.
    have hfield : Adapter.factoryField ∈ a.typeDef.fields.map (·.name) := by
      simp [Adapter.typeDef, ho]
    simp only [Adapter.constructorBody, ho]
    rw [List.forall_mem_cons, forall_mem_pair]
    exact ⟨.allocateCompanion hi, .writeField hfield, .return⟩

lemma grounds_constructBody (hw : w.typeDef ∈ c.emitted) (ha : a.typeDef ∈ c.emitted)
    (hwrapper : a.wrapper = w.qualifiedName) : ∀ op ∈ a.constructBody, c.Grounds fields op := by
  have hm : a.typeDef.instanceMethod? Adapter.populateMethod = some (.ofInstance
    Adapter.populateMethod [.named a.wrapper, .listOf (.named "any")] .void a.populateBody) := rfl
  rw [Adapter.constructBody, List.forall_mem_cons, forall_mem_pair, hwrapper]
  exact ⟨grounds_newWrapper hw 0, .invokeEmitted ha hm rfl, .return⟩

lemma adapter_grounded {names names' : NameRegistry} (hw : w.typeDef ∈ c.emitted)
    (hd : w.Distinct) (ha : a.typeDef ∈ c.emitted)
    (hok : Adapter.ofWrapper c.index c.index.contains c.settings names w = .ok (a, names')) :
    c.GroundsType a.typeDef := by
  obtain ⟨-, -, he⟩ := Adapter.ofWrapper_ok hok
  have hwrapper : a.wrapper = w.qualifiedName := by rw [he]
  have hconstruct : a.construct = _ := congrArg Adapter.construct he
  have hdecompose : a.decompose = _ := congrArg Adapter.decompose he
  have hcompanion : ∀ factory ∈ a.objectFactory,
      factory = c.settings.companionFor w.package ∧ c.index.contains factory = true := by
    intro factory hf
    rw [he, Option.mem_def, Option.ite_none_right_eq_some, Option.some.injEq] at hf
    exact ⟨hf.2.symm, hf.2 ▸ hf.1⟩
  have hknows : c.Knows (.named a.wrapper) := hwrapper ▸ knows_wrapper hw
  constructor
  · intro d hd
    obtain ⟨factory, hf, rfl⟩ := List.mem_map.mp hd
    exact knows_named (.entry (hcompanion factory (Option.mem_toList.mp hf)).2)
  · have hconstructor := grounds_constructorBody hcompanion
    generalize a.typeDef.fields.map (·.name) = fields at hconstructor ⊢
    simp only [Adapter.typeDef, List.forall_mem_cons]
    refine ⟨⟨?_, knows_void, hconstructor⟩, ⟨?_, knows_string, ?_⟩, ⟨?_, hknows, ?_⟩,
      ⟨?_, knows_void, ?_⟩, ⟨?_, knows_anyList, ?_⟩, by simp⟩
    · simp [MethodDef.ofConstructor]
    · simp [MethodDef.ofInstance]
    · exact List.forall_mem_singleton.mpr .return
    · exact List.forall_mem_singleton.mpr knows_anyList
    · exact grounds_constructBody hw ha hwrapper
    · exact forall_mem_pair.mpr ⟨hknows, knows_anyList⟩
    · exact grounds_populateBody hw hd _ hwrapper hconstruct
    · exact List.forall_mem_singleton.mpr hknows
    · exact grounds_decomposeBody hw hd _ hwrapper hdecompose

lemma factory_grounded (settings : Settings) (hw : w.typeDef ∈ c.emitted) :
    c.GroundsType (Factory.ofWrapper settings w).typeDef where
  fields := by simp [Factory.typeDef]
  methods := by
    refine forall_mem_pair.mpr ⟨groundsMethod_empty, ?_, knows_wrapper hw, ?_⟩
    · simp [MethodDef.ofInstance]
    · exact forall_mem_pair.mpr ⟨grounds_newWrapper hw 0, .return⟩

lemma fault_grounded {f : Fault} (h : c.Knows f.payloadType) : c.GroundsType f.typeDef where
  fields := List.forall_mem_singleton.mpr h
  methods := by
    have hfield : Fault.payloadField ∈ f.typeDef.fields.map (·.name) := List.mem_cons_self
    refine forall_mem_pair.mpr ⟨⟨forall_mem_pair.mpr ⟨knows_string, h⟩, knows_void, ?_⟩, ?_, h, ?_⟩
    · rw [MethodDef.ofConstructor, List.forall_mem_cons, forall_mem_pair]
      exact ⟨.invokeIntrinsic (by simp [Intrinsic.methods]), .writeField hfield, .return⟩
    · simp [MethodDef.ofInstance]
    · exact forall_mem_pair.mpr ⟨.readField hfield, .return⟩

lemma packageInfo_grounded (p : PackageInfo) : c.GroundsType p.typeDef where
  fields := by simp [PackageInfo.typeDef]
  methods := by simp [PackageInfo.typeDef]

end Codebase

namespace Synthesizer

variable {index : Index} {settings : Settings} {emitted : List TypeDef} {session session' : Session}
variable {name : String} {o : InterfaceOutput}

lemma interfaceOutput_fault_resolves
    (h : (ofIndex index settings).interfaceOutput session name = (.ok o, session')) :
    ∀ f ∈ o.faults, index.resolves f.payloadType = true := by
  intro f hf
  obtain ⟨service, hx, hfaults⟩ := interfaceOutput_faults h
  rw [hfaults] at hf
  obtain ⟨t, ht, rfl⟩ := Fault.mem_ofExceptions hf
  obtain ⟨op, hop, ht⟩ := List.mem_flatMap.mp ht
  obtain ⟨info, -, hops, -⟩ := Index.extract_ok hx
  obtain ⟨m, -, hm⟩ := mem_of_mapAll hops hop
  exact (Index.extractOperation_ok hm).2 t ht

lemma bundle_grounded {scope : Scope} {op : Operation} {kind : WrapperKind} {b : Bundle}
    {names names' : NameRegistry} (hindex : scope.index = index)
    (hw : scope.wrapper op kind = .ok b.wrapper)
    (hb : (ofIndex index settings).bundle names b.wrapper = .ok (b, names'))
    (he : ∀ d ∈ b.typeDefs, d ∈ emitted) :
    ∀ d ∈ b.typeDefs, Codebase.GroundsType ⟨index, settings, emitted⟩ d := by
  obtain ⟨-, hfactory, hadapter⟩ := bundle_ok hb
  obtain ⟨hresolves, -, hfields⟩ := Scope.wrapper_ok hw
  have hdistinct := Wrapper.distinct_of_wrapper_ok hw
  rw [Bundle.typeDefs, List.forall_mem_cons, forall_mem_pair] at he ⊢
  refine ⟨Codebase.wrapper_grounded fun f hf => ?_,
    Codebase.adapter_grounded he.1 hdistinct he.2.1 hadapter,
    hfactory ▸ Codebase.factory_grounded settings he.1⟩
  rw [hfields] at hf
  obtain ⟨e, hmem, rfl⟩ := List.mem_map.mp hf
  exact Codebase.knows_of_resolves (hindex ▸ hresolves e hmem)

lemma interfaceOutput_grounded
    (h : (ofIndex index settings).interfaceOutput session name = (.ok o, session'))
    (he : ∀ d ∈ o.typeDefs, d ∈ emitted) :
    ∀ d ∈ o.typeDefs, Codebase.GroundsType ⟨index, settings, emitted⟩ d := by
  have hfaults := interfaceOutput_fault_resolves h
  intro d hd
  rcases InterfaceOutput.mem_typeDefs_iff.mp hd with ⟨p, -, rfl⟩ | ⟨b, hb, hd⟩ | ⟨f, hf, rfl⟩
  · exact Codebase.packageInfo_grounded p
  · have hbe : ∀ d ∈ b.typeDefs, d ∈ emitted :=
      fun d hd => he d (InterfaceOutput.mem_typeDefs hb hd)
    obtain ⟨output, hout, hb⟩ := List.mem_flatMap.mp hb
    obtain ⟨op, names, names', hop⟩ := interfaceOutput_operation h output hout
    obtain ⟨kind, before, after, hw, hbundle⟩ := operationOutput_bundle hop b hb
    exact bundle_grounded rfl hw hbundle hbe d hd
  · exact Codebase.fault_grounded (Codebase.knows_of_resolves (hfaults f hf))

end Synthesizer

end SoapWrap
