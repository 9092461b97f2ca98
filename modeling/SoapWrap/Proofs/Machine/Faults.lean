import SoapWrap.Proofs.Machine.Execution
import SoapWrap.Synthesis.Fault

namespace SoapWrap

structure Fault.EmittedAs (f : Fault) (d : TypeDef) : Prop where
  name : d.name = f.name
  extendsRoot : d.supertype = some "Exception"
  field : d.fields = [⟨"faultInfo", f.payloadType⟩]
  construction : ∃ c, d.methods.filter (·.kind = .constructor) = [c] ∧
    c.params = [.named "string", f.payloadType]
  getter : ∃ g, d.methods.filter (·.kind = .onInstance) = [g] ∧ g.name = "getFaultInfo" ∧
    g.params = [] ∧ g.returns = f.payloadType
  keeps : ∀ (m : Machine) (message payload : Value) (h : Heap), m.get? d.name = some d →
    d.name ≠ Intrinsic.listType → d.name ≠ Intrinsic.exceptionType →
    ∃ k, m.instantiate d.name [message, payload] h = .done (.object h.objects.length) k ∧
      m.invoke (.object h.objects.length) "getFaultInfo" [] k = .done payload k ∧
      m.invoke (.object h.objects.length) "getMessage" [] k = .done message k

namespace Machine

variable {m : Machine} {call : Caller} {d : TypeDef} {h : Heap} {r : Nat} {v w : Value}

lemma fieldsOf_exception (hd : d.supertype = some Intrinsic.exceptionType) :
    m.fieldsOf m.chainFuel d =
      some (nullFields d.fields (Dict.empty.insert Intrinsic.exceptionMessage .null)) := by
  simp [chainFuel, fieldsOf, hd]

lemma dispatch_root_constructor
    (hv : h.field? (.object r) Intrinsic.exceptionMessage = some v) :
    m.dispatch call (.object r) ⟨Intrinsic.exceptionType, Intrinsic.constructor⟩ [w] h =
      .done .null (h.setField r Intrinsic.exceptionMessage w) := by
  have hlist : Intrinsic.exceptionType ≠ Intrinsic.listType := by decide
  have hholder : Intrinsic.exceptionType ≠ Intrinsic.holderType := by decide
  rw [dispatch, if_neg hlist, if_neg hholder, if_pos rfl, chainConstructor, if_pos rfl,
    List.headD_cons, Exec.bind_done (writeField_done hv)]
  rfl

lemma lookup_getMessage (hroot : d.name ≠ Intrinsic.exceptionType)
    (hd : m.get? d.name = some d) (hextends : d.supertype = some Intrinsic.exceptionType)
    (hown : d.instanceMethod? Intrinsic.getMessage = none) :
    m.lookup Intrinsic.getMessage m.chainFuel d.name = .message := by
  obtain ⟨e, rest, htypes⟩ := List.exists_cons_of_ne_nil (List.ne_nil_of_mem (get?_eq_some hd).1)
  have hlength : m.types.length = rest.length + 1 := by rw [htypes, List.length_cons]
  simp [chainFuel, hlength, lookup, hroot, hd, hown, hextends]

end Machine

namespace Fault

variable {f : Fault} {m : Machine} {h : Heap} {message payload : Value}

def blankIn (f : Fault) (h : Heap) : Heap :=
  (h.newObject ⟨f.name, Machine.nullFields f.typeDef.fields
    (Dict.empty.insert Intrinsic.exceptionMessage .null)⟩).2

def madeIn (f : Fault) (message payload : Value) (h : Heap) : Heap :=
  ((f.blankIn h).setField h.objects.length Intrinsic.exceptionMessage message).setField
    h.objects.length payloadField payload

lemma field?_blankIn (f : Fault) (h : Heap) {name : String}
    (hname : name = Intrinsic.exceptionMessage ∨ name = payloadField) :
    (f.blankIn h).field? (.object h.objects.length) name = some .null := by
  rw [Heap.field?, blankIn, Heap.object_newObject_self, Machine.get?_nullFields]
  split
  · rfl
  · next hnot =>
    obtain rfl := hname.resolve_right fun hname => hnot (by simp [typeDef, hname])
    exact Dict.get?_insert_self _ _ _

lemma type_madeIn (f : Fault) (message payload : Value) (h : Heap) :
    ((f.madeIn message payload h).object h.objects.length).type = f.name := by
  rw [madeIn, Heap.type_setField, Heap.type_setField, blankIn, Heap.object_newObject_self]

section Loaded

variable (hloaded : m.get? f.name = some f.typeDef)
include hloaded

lemma instantiate_done (hlist : f.name ≠ Intrinsic.listType) :
    m.instantiate f.name [message, payload] h =
      .done (.object h.objects.length) (f.madeIn message payload h) := by
  have hmessage := f.field?_blankIn h (.inl rfl)
  have hpayload : ((f.blankIn h).setField h.objects.length Intrinsic.exceptionMessage
      message).field? (.object h.objects.length) payloadField = some .null :=
    (Heap.field?_setField_of_ne _ (by decide)).trans (f.field?_blankIn h (.inr rfl))
  have hcall : ∀ c, f.typeDef.constructor? = some c →
      m.call (9999 + 1) c (.object h.objects.length) [message, payload] (f.blankIn h) =
        .done .null (f.madeIn message payload h) := by
    rintro c ⟨⟩
    refine Machine.call_returned rfl ?_
    refine (Machine.steps_cons_next (Machine.step_invoke_none rfl (Frame.evalAll_singleton rfl)
      (Machine.dispatch_root_constructor hmessage))).trans ?_
    exact (Machine.steps_cons_next (Machine.step_writeField rfl rfl
      (Machine.writeField_done hpayload))).trans
        (Machine.steps_cons_returned Machine.step_return_none)
  exact Machine.instantiateWith_loaded hlist hloaded (Machine.fieldsOf_exception rfl) rfl
    (hcall _ rfl)

variable (hroot : f.name ≠ Intrinsic.exceptionType)
include hroot

lemma invoke_payloadGetter :
    m.invoke (.object h.objects.length) payloadGetter [] (f.madeIn message payload h) =
      .done payload (f.madeIn message payload h) := by
  have hfield : (f.madeIn message payload h).field? (.object h.objects.length) payloadField =
      some payload := Heap.field?_setField_self _ (by simp [blankIn])
  have htype := f.type_madeIn message payload h
  rw [Machine.invoke, Machine.invokeWith_found (htype ▸ hroot) (htype ▸ hloaded) rfl]
  refine Machine.call_returned rfl ?_
  exact (Machine.steps_cons_next (Machine.step_readField rfl (Machine.readField_done hfield)
    (by decide))).trans (Machine.steps_cons_returned (Machine.step_return_some Frame.eval_local_put))

lemma invoke_getMessage :
    m.invoke (.object h.objects.length) Intrinsic.getMessage [] (f.madeIn message payload h) =
      .done message (f.madeIn message payload h) := by
  have hfield : (f.madeIn message payload h).field? (.object h.objects.length)
      Intrinsic.exceptionMessage = some message :=
    (Heap.field?_setField_of_ne _ (by decide)).trans
      (Heap.field?_setField_self _ (by simp [blankIn]))
  have hlookup := Machine.lookup_getMessage (d := f.typeDef) hroot hloaded rfl rfl
  simp only [Machine.invoke, Machine.invokeWith, Machine.objectRef, Exec.pure_bind]
  rw [Exec.bind_done (Exec.peek_apply _ _), f.type_madeIn]
  simp only [typeDef] at hlookup
  simp [hlookup, hfield]

end Loaded

lemma emittedAs_typeDef (f : Fault) : f.EmittedAs f.typeDef where
  name := rfl
  extendsRoot := rfl
  field := rfl
  construction := ⟨_, rfl, rfl⟩
  getter := ⟨_, rfl, rfl, rfl, rfl⟩
  keeps _ message payload h hloaded hlist hroot :=
    ⟨f.madeIn message payload h, instantiate_done hloaded hlist,
      invoke_payloadGetter hloaded hroot, invoke_getMessage hloaded hroot⟩

end Fault

end SoapWrap
