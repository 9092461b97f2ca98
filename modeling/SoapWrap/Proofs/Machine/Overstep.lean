import SoapWrap.Proofs.Machine.Operands

namespace SoapWrap

namespace Op

def operands : Op → List Operand
  | allocate _ _ args => args
  | readField _ object _ => [object]
  | writeField object _ value => [object, value]
  | invoke _ target _ args => target :: args
  | branchOnNull value _ _ => [value]
  | «return» value => value.toList

def slot? : Op → Option Nat
  | allocate dst _ _ => some dst
  | readField dst _ _ => some dst
  | invoke dst _ _ _ => dst
  | _ => none

def withSlot (slot : Nat) : Op → Op
  | allocate _ type args => .allocate slot type args
  | readField _ object field => .readField slot object field
  | invoke (some _) target method args => .invoke (some slot) target method args
  | op => op

def branches : Op → List (List Op)
  | branchOnNull _ as bs => [as, bs]
  | _ => []

inductive Roomy : Op → Prop where
  | intro {op : Op} (hparam : ∀ i, .param i ∈ op.operands → i + 1 < wordCount)
    (hslot : ∀ slot, op.slot? = some slot → slot < slotCount)
    (hbranches : ∀ branch ∈ op.branches, ∀ p ∈ branch, Roomy p) : Roomy op

lemma withSlot_self {op : Op} {slot : Nat} (h : op.slot? = some slot) : op.withSlot slot = op := by
  cases op with
  | allocate | readField =>
    cases h
    rfl
  | invoke dst target method args =>
    cases h
    rfl
  | writeField | branchOnNull | «return» => cases h

end Op

namespace Machine

structure Entry where
  method : MethodDef
  this : Value
  args : List Value
  heap : Heap

def Entry.run (e : Entry) (call : Caller) : Outcome Value := call e.method e.this e.args e.heap

inductive Constructs (m : Machine) (type : String) (args : List Value) (h : Heap) : Entry → Prop
  | intro {d : TypeDef} {fields : Dict Value} {c : MethodDef} (htype : type ≠ Intrinsic.listType)
    (hd : m.get? type = some d) (hfields : m.fieldsOf m.chainFuel d = some fields)
    (hc : d.constructor? = some c) :
    Constructs m type args h
      ⟨c, .object h.objects.length, args, (h.newObject ⟨type, fields⟩).2⟩

inductive Dispatches (m : Machine) (target : Value) (method : MethodRef) (args : List Value)
    (h : Heap) : Entry → Prop
  | chained {d : TypeDef} {c : MethodDef} (hlist : method.owner ≠ Intrinsic.listType)
    (hholder : method.owner ≠ Intrinsic.holderType) (hname : method.name = Intrinsic.constructor)
    (hroot : method.owner ≠ Intrinsic.exceptionType) (hd : m.get? method.owner = some d)
    (hc : d.constructor? = some c) : Dispatches m target method args h ⟨c, target, args, h⟩
  | invoked {ref : Nat} {c : MethodDef} (hlist : method.owner ≠ Intrinsic.listType)
    (hholder : method.owner ≠ Intrinsic.holderType) (hname : method.name ≠ Intrinsic.constructor)
    (htarget : target = .object ref)
    (hc : m.lookup method.name m.chainFuel (h.object ref).type = .found c) :
    Dispatches m target method args h ⟨c, target, args, h⟩

inductive Enters (m : Machine) (f : Frame) (h : Heap) : Op → Entry → Prop
  | allocate {dst : Nat} {type : String} {os : List Operand} {args : List Value} {e : Entry}
    (hargs : f.evalAll os = pure args) (he : m.Constructs type args h e) :
    Enters m f h (.allocate dst type os) e
  | invoke {dst : Option Nat} {o : Operand} {target : Value} {method : MethodRef}
    {os : List Operand} {args : List Value} {e : Entry} (htarget : f.eval o = pure target)
    (hargs : f.evalAll os = pure args) (he : m.Dispatches target method args h e) :
    Enters m f h (.invoke dst o method os) e

variable {m : Machine} {call : Caller} {f : Frame} {h k : Heap} {op : Op} {rest : List Op}

section Enter

variable {type : String} {target : Value} {method : MethodRef} {args : List Value} {n : Entry}

lemma Constructs.instantiateWith_eq (hn : m.Constructs type args h n) :
    m.instantiateWith call type args h =
      (call n.method n.this n.args >>= fun _ => pure n.this) n.heap := by
  obtain ⟨htype, hd, hfields, hc⟩ := hn
  exact instantiateWith_constructed htype hd hfields hc

lemma instantiateWith_own (hnone : ∀ n, ¬ m.Constructs type args h n) :
    (m.instantiateWith call type args h).Own := by
  by_cases htype : type = Intrinsic.listType
  · rw [instantiateWith, if_pos htype]
    exact .done
  cases hd : m.get? type with
  | none =>
    rw [instantiateWith, if_neg htype]
    split
    · exact .done
    · rw [require, hd]
      exact .failed (by rintro ⟨⟩)
  | some d =>
    cases hfields : m.fieldsOf m.chainFuel d with
    | none =>
      have hn : m.contains type = true := by simp [contains, hd]
      rw [instantiateWith, if_neg htype, if_neg (by simp [hn])]
      simp only [require, hd, Exec.pure_bind, hfields]
      exact .deep
    | some fields =>
      cases hc : d.constructor? with
      | some c => exact absurd (.intro htype hd hfields hc) (hnone _)
      | none =>
        rw [instantiateWith_plain htype hd hfields hc]
        split
        · exact .done
        · refine .failed (RunError.not_ofOperand_arity fun hname => ?_)
          have hdot : '.' ∈ (type ++ "." ++ Intrinsic.constructor).toList := by simp
          rw [hname] at hdot
          exact absurd hdot (by decide)

lemma Dispatches.dispatch_eq (hn : m.Dispatches target method args h n) :
    m.dispatch call target method args h = n.run call := by
  cases hn with
  | chained hlist hholder hname hroot hd hc =>
    rw [dispatch, if_neg hlist, if_neg hholder, if_pos hname, chainConstructor, if_neg hroot]
    simp only [require, hd, Exec.pure_bind, hc]
    rfl
  | invoked hlist hholder hname htarget hc =>
    rw [dispatch_generated hlist hholder hname, htarget, invokeWith, objectRef, Exec.pure_bind,
      Exec.bind_done (Exec.peek_apply _ h)]
    simp only [hc]
    rfl

lemma dispatch_own (hnone : ∀ n, ¬ m.Dispatches target method args h n) :
    (m.dispatch call target method args h).Own := by
  by_cases hlist : method.owner = Intrinsic.listType
  · rw [dispatch, if_pos hlist]
    exact own_listMethod h
  by_cases hholder : method.owner = Intrinsic.holderType
  · rw [dispatch, if_neg hlist, if_pos hholder]
    exact own_holderMethod h
  by_cases hname : method.name = Intrinsic.constructor
  · rw [dispatch, if_neg hlist, if_neg hholder, if_pos hname, chainConstructor]
    split
    · exact Exec.Own.bind own_writeField (fun _ => .pure _) h
    next hroot =>
    cases hd : m.get? method.owner with
    | none =>
      rw [require, hd]
      exact .failed (by rintro ⟨⟩)
    | some d =>
      simp only [require, hd, Exec.pure_bind]
      cases hc : d.constructor? with
      | none => exact .done
      | some c => exact absurd (.chained hlist hholder hname hroot hd hc) (hnone _)
  · rw [dispatch_generated hlist hholder hname]
    cases target with
    | object ref =>
      rw [invokeWith, objectRef, Exec.pure_bind, Exec.bind_done (Exec.peek_apply _ h)]
      cases hc : m.lookup method.name m.chainFuel (h.object ref).type with
      | found c => exact absurd (.invoked hlist hholder hname rfl hc) (hnone _)
      | message => exact .done
      | missing => exact .failed (by rintro ⟨⟩)
      | endless => exact .deep
    | _ => exact .failed (by rintro ⟨⟩)

lemma instantiateWith_exceeded_iff :
    m.instantiateWith call type args h = .exceeded .word ↔
      ∃ n, m.Constructs type args h n ∧ n.run call = .exceeded .word := by
  constructor
  · intro hexceeded
    by_cases hn : ∃ n, m.Constructs type args h n
    · obtain ⟨n, hn⟩ := hn
      rw [hn.instantiateWith_eq, Exec.bind_exceeded_iff] at hexceeded
      rcases hexceeded with hexceeded | ⟨_, _, -, hexceeded⟩
      · exact ⟨n, hn, hexceeded⟩
      · cases hexceeded
    · have hown : (m.instantiateWith call type args h).Own :=
        instantiateWith_own (not_exists.mp hn)
      rw [hexceeded] at hown
      cases hown
  · rintro ⟨n, hn, hexceeded⟩
    rw [hn.instantiateWith_eq]
    exact Exec.bind_exceeded_iff.mpr (.inl hexceeded)

lemma dispatch_exceeded_iff :
    m.dispatch call target method args h = .exceeded .word ↔
      ∃ n, m.Dispatches target method args h n ∧ n.run call = .exceeded .word := by
  constructor
  · intro hexceeded
    by_cases hn : ∃ n, m.Dispatches target method args h n
    · obtain ⟨n, hn⟩ := hn
      exact ⟨n, hn, hn.dispatch_eq.symm.trans hexceeded⟩
    · have hown : (m.dispatch call target method args h).Own := dispatch_own (not_exists.mp hn)
      rw [hexceeded] at hown
      cases hown
  · rintro ⟨n, hn, hexceeded⟩
    exact hn.dispatch_eq.trans hexceeded

variable {e : RunError} (he : e.OfOperand)
include he

lemma instantiateWith_failed (hfailed : m.instantiateWith call type args h = .failed e k) :
    ∃ n, m.Constructs type args h n ∧ n.run call = .failed e k := by
  by_cases hn : ∃ n, m.Constructs type args h n
  · obtain ⟨n, hn⟩ := hn
    rw [hn.instantiateWith_eq, Exec.bind_failed_iff] at hfailed
    rcases hfailed with hfailed | ⟨_, _, -, hfailed⟩
    · exact ⟨n, hn, hfailed⟩
    · cases hfailed
  · have hown : (m.instantiateWith call type args h).Own :=
      instantiateWith_own (not_exists.mp hn)
    rw [hfailed] at hown
    cases hown with
    | failed hnot => exact absurd he hnot

lemma dispatch_failed (hfailed : m.dispatch call target method args h = .failed e k) :
    ∃ n, m.Dispatches target method args h n ∧ n.run call = .failed e k := by
  by_cases hn : ∃ n, m.Dispatches target method args h n
  · obtain ⟨n, hn⟩ := hn
    exact ⟨n, hn, hn.dispatch_eq.symm.trans hfailed⟩
  · have hown : (m.dispatch call target method args h).Own := dispatch_own (not_exists.mp hn)
    rw [hfailed] at hown
    cases hown with
    | failed hnot => exact absurd he hnot

end Enter

section Step

def store (f : Frame) (slot : Nat) (x : Exec Value) : Exec Flow :=
  x >>= fun v => f.set slot v >>= fun f => pure (.next f)

variable {slot : Nat} {x : Exec Value}

lemma slotCount_pos : 0 < slotCount := by decide

lemma store_exceeded_iff : store f slot x h = .exceeded .word ↔
    x h = .exceeded .word ∨ slotCount ≤ slot ∧ ∃ v k, x h = .done v k := by
  rw [store, Exec.bind_exceeded_iff]
  refine or_congr_right ?_
  constructor
  · rintro ⟨v, k, hdone, hexceeded⟩
    refine ⟨Nat.le_of_not_lt fun hslot => ?_, v, k, hdone⟩
    rw [Frame.set_eq hslot] at hexceeded
    cases hexceeded
  · rintro ⟨hwide, v, k, hdone⟩
    refine ⟨v, k, hdone, ?_⟩
    rw [Frame.set, if_neg (Nat.not_lt.mpr hwide)]
    rfl

lemma store_done_iff (f : Frame) (hslot : slot < slotCount) :
    (∃ flow k, store f slot x h = .done flow k) ↔ ∃ v k, x h = .done v k := by
  constructor
  · rintro ⟨flow, k, hdone⟩
    obtain ⟨v, k', hv, -⟩ := Exec.bind_done_iff.mp hdone
    exact ⟨v, k', hv⟩
  · rintro ⟨v, k, hv⟩
    refine ⟨.next (f.put slot v), k, Exec.bind_done_iff.mpr ⟨v, k, hv, ?_⟩⟩
    rw [Frame.set_eq hslot]
    rfl

lemma evalAll_bind_exceeded_iff {os : List Operand} {r : List Value → Exec Value} :
    (f.evalAll os >>= r) h = .exceeded .word ↔
      f.Overreads os ∨ ∃ vs, f.evalAll os = pure vs ∧ r vs h = .exceeded .word := by
  rw [(f.heapless_evalAll os).bind_exceeded_iff, Frame.evalAll_exceeded_iff]

lemma eval_bind_exceeded_iff {α : Type} {o : Operand} {r : Value → Exec α} :
    (f.eval o >>= r) h = .exceeded .word ↔
      f.Overreads [o] ∨ ∃ v, f.eval o = pure v ∧ r v h = .exceeded .word := by
  rw [(f.heapless_eval o).bind_exceeded_iff, Frame.eval_exceeded_iff]

lemma invoke_exceeded_iff {dst : Option Nat} {o : Operand} {method : MethodRef}
    {os : List Operand} :
    (f.eval o >>= fun target => f.evalAll os >>= m.dispatch call target method) h =
        .exceeded .word ↔
      f.Overreads (o :: os) ∨
        ∃ e, m.Enters f h (.invoke dst o method os) e ∧ e.run call = .exceeded .word := by
  rw [eval_bind_exceeded_iff, @Frame.overreads_cons_iff f o os, or_assoc]
  refine or_congr_right ?_
  simp only [evalAll_bind_exceeded_iff, dispatch_exceeded_iff]
  constructor
  · rintro ⟨target, htarget, hover | ⟨args, hargs, e, he, hexceeded⟩⟩
    · exact .inl ⟨⟨target, htarget⟩, hover⟩
    · exact .inr ⟨e, .invoke htarget hargs he, hexceeded⟩
  · rintro (⟨⟨target, htarget⟩, hover⟩ | ⟨e, he, hexceeded⟩)
    · exact ⟨target, htarget, .inl hover⟩
    · cases he with
      | invoke htarget hargs he => exact ⟨_, htarget, .inr ⟨_, hargs, e, he, hexceeded⟩⟩

lemma exists_stored (m : Machine) (call : Caller) (f : Frame) (hslot : op.slot? = some slot) :
    ∃ x, (∀ s, m.step call f (op.withSlot s) = store f s x) ∧
      ∀ h, x h = .exceeded .word ↔ f.Overreads op.operands ∨
        ∃ e, m.Enters f h op e ∧ e.run call = .exceeded .word := by
  cases op with
  | allocate dst type os =>
    refine ⟨f.evalAll os >>= m.instantiateWith call type, fun s => ?_, fun h => ?_⟩
    · rw [Op.withSlot, step, store, Exec.bind_assoc]
    · rw [evalAll_bind_exceeded_iff]
      refine or_congr_right ?_
      simp only [instantiateWith_exceeded_iff]
      constructor
      · rintro ⟨args, hargs, e, he, hexceeded⟩
        exact ⟨e, .allocate hargs he, hexceeded⟩
      · rintro ⟨e, he, hexceeded⟩
        cases he with
        | allocate hargs he => exact ⟨_, hargs, e, he, hexceeded⟩
  | readField dst object field =>
    refine ⟨f.eval object >>= fun v => readField v field, fun s => ?_, fun h => ?_⟩
    · rw [Op.withSlot, step, store, Exec.bind_assoc]
    · rw [eval_bind_exceeded_iff]
      refine or_congr_right (iff_of_false ?_ ?_)
      · rintro ⟨v, -, hexceeded⟩
        exact own_readField.inWords h hexceeded
      · rintro ⟨e, he, -⟩
        cases he
  | invoke dst o method os =>
    cases dst with
    | none => cases hslot
    | some dst =>
      refine ⟨f.eval o >>= fun target => f.evalAll os >>= m.dispatch call target method,
        fun s => ?_, fun h => invoke_exceeded_iff⟩
      rw [Op.withSlot, step, store, Exec.bind_assoc]
      simp only [Exec.bind_assoc]
  | writeField | branchOnNull | «return» => cases hslot

inductive Oversteps (m : Machine) (call : Caller) (f : Frame) (h : Heap) (op : Op) : Prop
  | operand (hover : f.Overreads op.operands) : Oversteps m call f h op
  | slot {slot : Nat} {flow : Flow} {k : Heap} (hslot : op.slot? = some slot)
    (hwide : slotCount ≤ slot) (hdone : m.step call f (op.withSlot 0) h = .done flow k) :
    Oversteps m call f h op

lemma oversteps_iff_of_slotless (hnone : op.slot? = none) :
    m.Oversteps call f h op ↔ f.Overreads op.operands := by
  constructor
  · intro hover
    cases hover with
    | operand hover => exact hover
    | slot hslot =>
      rw [hnone] at hslot
      cases hslot
  · exact .operand

lemma step_stored_exceeded_iff (hslot : op.slot? = some slot) :
    m.step call f op h = .exceeded .word ↔
      m.Oversteps call f h op ∨ ∃ e, m.Enters f h op e ∧ e.run call = .exceeded .word := by
  -- Every frame has room for slot 0, so the operation with this slot ends as its value does.
  obtain ⟨x, hx, hexceeded⟩ := exists_stored m call f hslot
  have hself := hx slot
  rw [Op.withSlot_self hslot] at hself
  rw [hself, store_exceeded_iff, hexceeded, or_right_comm]
  refine or_congr_left ?_
  constructor
  · rintro (hover | ⟨hwide, hdone⟩)
    · exact .operand hover
    · obtain ⟨flow, k, hdone⟩ := (store_done_iff f slotCount_pos).mpr hdone
      exact .slot hslot hwide (by rw [hx, hdone])
  · intro hover
    cases hover with
    | operand hover => exact .inl hover
    | slot hslot' hwide hdone =>
      rw [hslot] at hslot'
      cases hslot'
      rw [hx] at hdone
      exact .inr ⟨hwide, (store_done_iff f slotCount_pos).mp ⟨_, _, hdone⟩⟩

lemma step_writeField_exceeded_iff {object value : Operand} {field : String} :
    m.step call f (.writeField object field value) h = .exceeded .word ↔
      f.Overreads [object, value] := by
  rw [step, eval_bind_exceeded_iff, @Frame.overreads_cons_iff f object [value]]
  simp only [eval_bind_exceeded_iff]
  refine or_congr_right ?_
  constructor
  · rintro ⟨v, hv, hover | ⟨w, -, hexceeded⟩⟩
    · exact ⟨⟨v, hv⟩, hover⟩
    · exact absurd hexceeded ((Exec.Own.bind own_writeField fun _ => .pure _).inWords h)
  · rintro ⟨⟨v, hv⟩, hover⟩
    exact ⟨v, hv, .inl hover⟩

lemma step_invoke_none_exceeded_iff {o : Operand} {method : MethodRef} {os : List Operand} :
    m.step call f (.invoke none o method os) h = .exceeded .word ↔ f.Overreads (o :: os) ∨
      ∃ e, m.Enters f h (.invoke none o method os) e ∧ e.run call = .exceeded .word := by
  have hdrop : m.step call f (.invoke none o method os) =
      ((f.eval o >>= fun target => f.evalAll os >>= m.dispatch call target method) >>=
        fun _ => pure (.next f)) := by
    simp only [step, Exec.bind_assoc]
  rw [hdrop, Exec.bind_exceeded_iff, invoke_exceeded_iff]
  refine or_iff_left ?_
  rintro ⟨_, _, -, hexceeded⟩
  cases hexceeded

lemma step_return_exceeded_iff {value : Option Operand} :
    m.step call f (.return value) h = .exceeded .word ↔ f.Overreads value.toList := by
  cases value with
  | none =>
    rw [step]
    refine iff_of_false (Exec.InWords.pure _ h) ?_
    intro hover
    cases hover
  | some o =>
    rw [step, eval_bind_exceeded_iff]
    refine or_iff_left ?_
    rintro ⟨v, -, hexceeded⟩
    cases hexceeded

lemma step_exceeded_iff (hbranches : op.branches = []) :
    m.step call f op h = .exceeded .word ↔
      m.Oversteps call f h op ∨ ∃ e, m.Enters f h op e ∧ e.run call = .exceeded .word := by
  cases op with
  | allocate | readField => exact step_stored_exceeded_iff rfl
  | writeField object field value =>
    rw [step_writeField_exceeded_iff, oversteps_iff_of_slotless rfl]
    refine (or_iff_left ?_).symm
    rintro ⟨e, he, -⟩
    cases he
  | invoke dst o method os =>
    cases dst with
    | some slot => exact step_stored_exceeded_iff rfl
    | none => rw [step_invoke_none_exceeded_iff, oversteps_iff_of_slotless rfl, Op.operands]
  | branchOnNull => cases hbranches
  | «return» value =>
    rw [step_return_exceeded_iff, oversteps_iff_of_slotless rfl]
    refine (or_iff_left ?_).symm
    rintro ⟨e, he, -⟩
    cases he

lemma step_branch_exceeded_iff {value : Operand} {as bs : List Op} :
    m.step call f (.branchOnNull value as bs) h = .exceeded .word ↔
      f.Overreads [value] ∨ ∃ v, f.eval value = pure v ∧
        m.steps call f (if v.isNull then as else bs) h = .exceeded .word := by
  rw [step, eval_bind_exceeded_iff]
  refine or_congr_right (exists_congr fun v => and_congr_right fun _ => ?_)
  split <;> exact Iff.rfl

lemma steps_cons_exceeded_iff : m.steps call f (op :: rest) h = .exceeded .word ↔
    m.step call f op h = .exceeded .word ∨
      ∃ g k, m.step call f op h = .done (.next g) k ∧ m.steps call g rest k = .exceeded .word := by
  rw [steps, Exec.bind_exceeded_iff]
  refine or_congr_right ?_
  constructor
  · rintro ⟨flow, k, hdone, hexceeded⟩
    cases flow with
    | next g => exact ⟨g, k, hdone, hexceeded⟩
    | returned v => cases hexceeded
  · rintro ⟨g, k, hdone, hexceeded⟩
    exact ⟨.next g, k, hdone, hexceeded⟩

end Step

end Machine

end SoapWrap
