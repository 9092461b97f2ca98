import Mathlib.Tactic.Lemma
import SoapWrap.Machine.Basic
import SoapWrap.Proofs.Machine.HeapLaws

/-! How operations, calls and allocations run: one equation for each, so that no later proof opens
the interpreter. -/

namespace SoapWrap

namespace Exec

variable {α β : Type} {x : Exec α} {f : α → Exec β} {h k : Heap} {a : α} {e : RunError}

@[simp] lemma pure_apply (a : α) (h : Heap) : (Pure.pure a : Exec α) h = .done a h := rfl

@[simp] lemma fail_apply (e : RunError) (h : Heap) : (fail e : Exec α) h = .failed e h := rfl

@[simp] lemma peek_apply (g : Heap → α) (h : Heap) : peek g h = .done (g h) h := rfl

@[simp] lemma modify_apply (g : Heap → Heap) (h : Heap) : modify g h = .done () (g h) := rfl

@[simp] lemma allocate_apply (g : Heap → α × Heap) (h : Heap) :
    allocate g h = .done (g h).1 (g h).2 := rfl

@[simp] lemma pure_bind (a : α) (f : α → Exec β) : (Pure.pure a >>= f) = f a := rfl

lemma bind_done (hx : x h = .done a k) : (x >>= f) h = f a k := by
  change bind x f h = _
  simp only [bind, hx]

lemma bind_failed (hx : x h = .failed e k) : (x >>= f) h = .failed e k := by
  change bind x f h = _
  simp only [bind, hx]

end Exec

namespace Frame

variable {f : Frame} {slot : Nat} {v : Value} {h : Heap}

def put (f : Frame) (slot : Nat) (v : Value) : Frame := { f with locals := (slot, v) :: f.locals }

@[simp] lemma put_this : (f.put slot v).this = f.this := rfl

@[simp] lemma put_params : (f.put slot v).params = f.params := rfl

lemma set_eq (hs : slot < slotCount) : f.set slot v = pure (f.put slot v) := by
  rw [set, if_pos hs]
  rfl

@[simp] lemma eval_this : f.eval .this = pure f.this := rfl

@[simp] lemma eval_const (c : Constant) : f.eval (.const c) = pure c.value := rfl

lemma eval_param {i : Nat} (hv : f.params[i]? = some v) : f.eval (.param i) = pure v := by
  simp only [eval, hv]

lemma eval_local (hv : f.locals.lookup slot = some v) : f.eval (.local slot) = pure v := by
  simp only [eval, hv]

@[simp] lemma eval_local_put : (f.put slot v).eval (.local slot) = pure v :=
  eval_local (by simp [put])

lemma eval_local_put_of_ne {other : Nat} (hne : slot ≠ other) :
    (f.put other v).eval (.local slot) = f.eval (.local slot) := by
  have hb : (slot == other) = false := by simpa using hne
  simp only [eval, put, List.lookup_cons, hb]

@[simp] lemma evalAll_nil : f.evalAll [] = pure [] := rfl

lemma evalAll_singleton {o : Operand} (ho : f.eval o = pure v) : f.evalAll [o] = pure [v] := by
  simp only [evalAll, ho, Exec.pure_bind]

end Frame

namespace Machine

variable {m : Machine} {call : Caller} {f g : Frame} {h k : Heap} {op : Op} {ops rest : List Op}

attribute [local simp] step steps

@[simp] lemma steps_nil : m.steps call f [] = pure (.next f) := by
  rw [steps]

lemma steps_cons_next (hs : m.step call f op h = .done (.next g) k) :
    m.steps call f (op :: rest) h = m.steps call g rest k := by
  rw [steps, Exec.bind_done hs]

lemma steps_cons_returned {v : Value} (hs : m.step call f op h = .done (.returned v) k) :
    m.steps call f (op :: rest) h = .done (.returned v) k := by
  rw [steps, Exec.bind_done hs]
  rfl

lemma steps_cons_failed {e : RunError} (hs : m.step call f op h = .failed e k) :
    m.steps call f (op :: rest) h = .failed e k := by
  rw [steps, Exec.bind_failed hs]

lemma step_return_none : m.step call f (.return none) h = .done (.returned .null) h := by
  rw [step]
  rfl

lemma step_return_some {o : Operand} {v : Value} (ho : f.eval o = pure v) :
    m.step call f (.return (some o)) h = .done (.returned v) h := by
  rw [step]
  simp only [ho, Exec.pure_bind]
  rfl

lemma step_readField {o : Operand} {v w : Value} {slot : Nat} {field : String}
    (ho : f.eval o = pure v) (hr : readField v field h = .done w h) (hs : slot < slotCount) :
    m.step call f (.readField slot o field) h = .done (.next (f.put slot w)) h := by
  rw [step]
  simp only [ho, Exec.pure_bind, Frame.set_eq hs]
  rw [Exec.bind_done hr]
  rfl

lemma step_writeField {o p : Operand} {v w : Value} {field : String} (ho : f.eval o = pure v)
    (hp : f.eval p = pure w) (hw : writeField v field w h = .done () k) :
    m.step call f (.writeField o field p) h = .done (.next f) k := by
  rw [step]
  simp only [ho, hp, Exec.pure_bind]
  rw [Exec.bind_done hw]
  rfl

lemma step_allocate {type : String} {os : List Operand} {args : List Value} {v : Value}
    {slot : Nat} (ho : f.evalAll os = pure args)
    (hi : m.instantiateWith call type args h = .done v k) (hs : slot < slotCount) :
    m.step call f (.allocate slot type os) h = .done (.next (f.put slot v)) k := by
  rw [step]
  simp only [ho, Exec.pure_bind, Frame.set_eq hs]
  rw [Exec.bind_done hi]
  rfl

section Invoke

variable {o : Operand} {os : List Operand} {target v : Value} {args : List Value}
variable {method : MethodRef} (ho : f.eval o = pure target) (hos : f.evalAll os = pure args)
include ho hos

lemma step_invoke {slot : Nat} (hd : m.dispatch call target method args h = .done v k)
    (hs : slot < slotCount) :
    m.step call f (.invoke (some slot) o method os) h = .done (.next (f.put slot v)) k := by
  rw [step]
  simp only [ho, hos, Exec.pure_bind, Frame.set_eq hs]
  rw [Exec.bind_done hd]
  rfl

lemma step_invoke_none (hd : m.dispatch call target method args h = .done v k) :
    m.step call f (.invoke none o method os) h = .done (.next f) k := by
  rw [step]
  simp only [ho, hos, Exec.pure_bind]
  rw [Exec.bind_done hd]
  rfl

lemma step_invoke_failed {e : RunError} {dst : Option Nat}
    (hd : m.dispatch call target method args h = .failed e k) :
    m.step call f (.invoke dst o method os) h = .failed e k := by
  rw [step]
  simp only [ho, hos, Exec.pure_bind]
  exact Exec.bind_failed hd

end Invoke

lemma step_branch_null {o : Operand} {as bs : List Op} (ho : f.eval o = pure .null) :
    m.step call f (.branchOnNull o as bs) h = m.steps call f as h := by
  rw [step]
  simp only [ho, Exec.pure_bind]
  rfl

lemma step_branch_some {o : Operand} {as bs : List Op} {v : Value} (ho : f.eval o = pure v)
    (hv : v ≠ .null) : m.step call f (.branchOnNull o as bs) h = m.steps call f bs h := by
  have hn : v.isNull = false := by cases v <;> first | rfl | exact (hv rfl).elim
  rw [step]
  simp only [ho, Exec.pure_bind, hn]
  rfl

section Call

variable {fuel : Nat} {d : MethodDef} {this v : Value} {args : List Value}
variable (ha : args.length = d.params.length)
include ha

lemma call_returned
    (hs : m.steps (m.call fuel) { this, params := args } d.body h = .done (.returned v) k) :
    m.call (fuel + 1) d this args h = .done v k := by
  simp only [Machine.call, ha, ne_eq, not_true, if_false]
  rw [Exec.bind_done hs]
  rfl

lemma call_failed {e : RunError}
    (hs : m.steps (m.call fuel) { this, params := args } d.body h = .failed e k) :
    m.call (fuel + 1) d this args h = .failed e k := by
  simp only [Machine.call, ha, ne_eq, not_true, if_false]
  exact Exec.bind_failed hs

end Call

lemma readField_done {r : Nat} {field : String} {v : Value}
    (hv : h.field? (.object r) field = some v) : readField (.object r) field h = .done v h := by
  rw [Heap.field?] at hv
  simp only [readField, objectRef, Exec.pure_bind]
  rw [Exec.bind_done (Exec.peek_apply _ h)]
  simp only [hv, Exec.pure_apply]

lemma writeField_done {r : Nat} {field : String} {v w : Value}
    (hv : h.field? (.object r) field = some v) :
    writeField (.object r) field w h = .done () (h.setField r field w) := by
  have hc : (h.object r).fields.contains field = true :=
    Dict.contains_eq_true_iff.mpr ⟨v, hv⟩
  simp only [writeField, objectRef, Exec.pure_bind]
  rw [Exec.bind_done (Exec.peek_apply _ h)]
  simp only [hc, if_true]
  rfl

lemma dispatch_generated {target : Value} {method : MethodRef} {args : List Value}
    (hl : method.owner ≠ Intrinsic.listType) (hh : method.owner ≠ Intrinsic.holderType)
    (hc : method.name ≠ Intrinsic.constructor) :
    m.dispatch call target method args = m.invokeWith call target method.name args := by
  rw [dispatch, if_neg hl, if_neg hh, if_neg hc]

lemma dispatch_list {target : Value} {name : String} {args : List Value} :
    m.dispatch call target ⟨Intrinsic.listType, name⟩ args = listMethod target name args := by
  rw [dispatch, if_pos rfl]

lemma dispatch_holder {target : Value} {name : String} {args : List Value} :
    m.dispatch call target ⟨Intrinsic.holderType, name⟩ args = holderMethod target name := by
  have hne : Intrinsic.holderType ≠ Intrinsic.listType := by decide
  rw [dispatch, if_neg hne, if_pos rfl]

lemma invokeWith_found {r : Nat} {name : String} {args : List Value} {d : TypeDef}
    {method : MethodDef} (hx : (h.object r).type ≠ Intrinsic.exceptionType)
    (hd : m.get? (h.object r).type = some d) (hm : d.instanceMethod? name = some method) :
    m.invokeWith call (.object r) name args h = call method (.object r) args h := by
  have hl : m.lookup name m.chainFuel (h.object r).type = .found method := by
    simp only [chainFuel, lookup, hx, if_false, hd, hm]
  simp only [invokeWith, objectRef, Exec.pure_bind]
  rw [Exec.bind_done (Exec.peek_apply _ h)]
  simp only [hl]

lemma get?_eq_some {name : String} {d : TypeDef} (h : m.get? name = some d) :
    d ∈ m.types ∧ d.name = name := by
  have hname := List.find?_some h
  exact ⟨List.mem_of_find?_eq_some h, of_decide_eq_true hname⟩

section Instantiate

variable {type : String} {args : List Value} {d : TypeDef} {c : MethodDef} {fields : Dict Value}

lemma instantiateWith_list :
    m.instantiateWith call Intrinsic.listType args h =
      .done (.list h.lists.length) (h.newList []).2 := by
  rw [instantiateWith, if_pos rfl]
  rfl

lemma instantiateWith_external (hl : type ≠ Intrinsic.listType) (he : type ∈ m.externals)
    (hn : m.contains type = false) :
    m.instantiateWith call type args h =
      .done (.object h.objects.length) (h.newObject ⟨type, .empty⟩).2 := by
  rw [instantiateWith, if_neg hl, if_pos (by simp [he, hn])]
  rfl

lemma instantiateWith_loaded {v : Value} (hl : type ≠ Intrinsic.listType)
    (hd : m.get? type = some d) (hf : m.fieldsOf m.chainFuel d = some fields)
    (hc : d.constructor? = some c)
    (hr : call c (.object h.objects.length) args (h.newObject ⟨type, fields⟩).2 = .done v k) :
    m.instantiateWith call type args h = .done (.object h.objects.length) k := by
  have hn : m.contains type = true := by simp [contains, hd]
  rw [instantiateWith, if_neg hl, if_neg (by simp [hn])]
  simp only [require, hd, Exec.pure_bind, hf, hc]
  rw [Exec.bind_done (Exec.allocate_apply _ h), Heap.newObject_fst, Exec.bind_done hr]
  rfl

section Loaded

variable (hl : type ≠ Intrinsic.listType) (hd : m.get? type = some d)
variable (hf : m.fieldsOf m.chainFuel d = some fields)
include hl hd hf

lemma instantiateWith_constructed (hc : d.constructor? = some c) :
    m.instantiateWith call type args h =
      (call c (.object h.objects.length) args >>= fun _ => pure (.object h.objects.length))
        (h.newObject ⟨type, fields⟩).2 := by
  have hn : m.contains type = true := by simp [contains, hd]
  rw [instantiateWith, if_neg hl, if_neg (by simp [hn])]
  simp only [require, hd, Exec.pure_bind, hf, hc]
  rw [Exec.bind_done (Exec.allocate_apply _ h), Heap.newObject_fst]

lemma instantiateWith_plain (hc : d.constructor? = none) :
    m.instantiateWith call type args h =
      if args = [] then .done (.object h.objects.length) (h.newObject ⟨type, fields⟩).2
      else .failed (.arityMismatch (type ++ "." ++ Intrinsic.constructor) 0 args.length)
        (h.newObject ⟨type, fields⟩).2 := by
  have hn : m.contains type = true := by simp [contains, hd]
  rw [instantiateWith, if_neg hl, if_neg (by simp [hn])]
  simp only [require, hd, Exec.pure_bind, hf, hc]
  rw [Exec.bind_done (Exec.allocate_apply _ h), Heap.newObject_fst]
  cases args <;> rfl

end Loaded

end Instantiate

lemma get?_nullFields (fields : List FieldDef) (d : Dict Value) (name : String) :
    (nullFields fields d).get? name =
      if name ∈ fields.map (·.name) then some .null else d.get? name := by
  induction fields generalizing d with
  | nil => simp [nullFields]
  | cons f rest ih =>
    have hr := ih (d.insert f.name .null)
    simp only [nullFields, List.foldl_cons] at hr ⊢
    rw [hr, Dict.get?_insert, List.map_cons]
    by_cases hm : name ∈ rest.map (·.name)
    · rw [if_pos hm, if_pos (List.mem_cons_of_mem _ hm)]
    · by_cases hn : name = f.name
      · simp [hn]
      · simp [hm, hn]

lemma fieldsOf_root {d : TypeDef} (hs : d.supertype = none) :
    m.fieldsOf m.chainFuel d = some (nullFields d.fields .empty) := by
  simp [chainFuel, fieldsOf, hs]

end Machine

end SoapWrap
