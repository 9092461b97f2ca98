import SoapWrap.Proofs.Machine.Execution

/-! A constructor is run in two ways: on an object that is created for it, and on an object that is
there already, from a constructor that chains. -/

namespace SoapWrap

def Outcome.ending {α : Type} : Outcome α → Outcome Unit
  | .done _ h => .done () h
  | .failed e h => .failed e h
  | .exceeded l => .exceeded l

lemma Exec.ending_bind_pure {α β : Type} (x : Exec α) (g : α → β) (h : Heap) :
    Outcome.ending ((x >>= fun a => Pure.pure (g a)) h) = (x h).ending := by
  change (bind x _ h).ending = _
  simp only [bind]
  cases x h <;> rfl

namespace Machine

variable {m : Machine} {call : Caller} {f : Frame} {h : Heap} {d : TypeDef} {type : String}
variable {fields : Dict Value} {args : List Value} {os : List Operand} {dst : Option Nat}

def created (type : String) (fields : Dict Value) (h : Heap) : Heap :=
  (h.newObject ⟨type, fields⟩).2

lemma dispatch_chained {target : Value} (hlist : type ≠ Intrinsic.listType)
    (hholder : type ≠ Intrinsic.holderType) (hroot : type ≠ Intrinsic.exceptionType)
    (hd : m.get? type = some d) :
    m.dispatch call target ⟨type, Intrinsic.constructor⟩ args =
      match d.constructor? with
      | some c => call c target args
      | none => pure .null := by
  rw [dispatch, if_neg hlist, if_neg hholder, if_pos rfl, chainConstructor, if_neg hroot, require,
    hd]
  rfl

lemma ending_step_invoke {target : Value} {method : MethodRef} {o : Operand}
    (ho : f.eval o = pure target) (hos : f.evalAll os = pure args)
    (hdst : ∀ slot, dst = some slot → slot < slotCount) :
    (m.step call f (.invoke dst o method os) h).ending =
      (m.dispatch call target method args h).ending := by
  rw [step]
  simp only [ho, hos, Exec.pure_bind]
  cases dst with
  | none => exact Exec.ending_bind_pure _ _ h
  | some slot =>
    simp only [Frame.set_eq (hdst slot rfl), Exec.pure_bind]
    exact Exec.ending_bind_pure _ (fun v => Flow.next (f.put slot v)) h

variable (call) in
theorem chaining_ends_as_creation_iff (hlist : type ≠ Intrinsic.listType)
    (hholder : type ≠ Intrinsic.holderType) (hroot : type ≠ Intrinsic.exceptionType)
    (hd : m.get? type = some d) (hfields : m.fieldsOf m.chainFuel d = some fields)
    (hthis : f.this = .object h.objects.length) (hos : f.evalAll os = pure args)
    (hdst : ∀ slot, dst = some slot → slot < slotCount) :
    ((m.step call f (.invoke dst .this ⟨type, Intrinsic.constructor⟩ os)
        (created type fields h)).ending = (m.instantiateWith call type args h).ending ↔
      d.constructor?.isSome ∨ args = []) ∧
    (d.constructor? = none →
      (m.step call f (.invoke dst .this ⟨type, Intrinsic.constructor⟩ os)
        (created type fields h)).ending = .done () (created type fields h) ∧
      (args ≠ [] → m.instantiateWith call type args h = .failed
        (.arityMismatch (type ++ "." ++ Intrinsic.constructor) 0 args.length)
        (created type fields h))) := by
  have hthis : f.eval .this = pure (.object h.objects.length) := by rw [Frame.eval_this, hthis]
  rw [ending_step_invoke hthis hos hdst, dispatch_chained hlist hholder hroot hd]
  cases hc : d.constructor? with
  | some c =>
    refine ⟨iff_of_true ?_ (.inl rfl), fun hnone => by cases hnone⟩
    rw [instantiateWith_constructed hlist hd hfields hc, Exec.ending_bind_pure]
    rfl
  | none =>
    rw [instantiateWith_plain hlist hd hfields hc]
    by_cases hargs : args = []
    · rw [if_pos hargs]
      exact ⟨iff_of_true rfl (.inr hargs), fun _ => ⟨rfl, fun hne => absurd hargs hne⟩⟩
    · rw [if_neg hargs]
      refine ⟨iff_of_false (fun heq => by cases heq) ?_, fun _ => ⟨rfl, fun _ => rfl⟩⟩
      rintro (hsome | hargs')
      · cases hsome
      · exact hargs hargs'

end Machine

namespace Stool

open Machine

/-- A type without a constructor, and one whose constructor takes a parameter. -/
def machine : Machine where
  types := [{
    name := "Stool"
    fields := [⟨"legs", .named "int"⟩]
    methods := [.ofInstance "restore" [] .void [
      .invoke none .this ⟨"Stool", Intrinsic.constructor⟩ [.const .null]]] }, {
    name := "Bench"
    methods := [.ofConstructor [.named "int"] []] }]

def legless : Heap := { objects := [⟨"Stool", .ofList [("legs", .null)]⟩] }

def frame : Frame := { this := .object 0, params := [] }

theorem bench_ends_alike :
    (machine.step (machine.call 1) frame (.invoke none .this ⟨"Bench", Intrinsic.constructor⟩ [])
        (created "Bench" .empty {})).ending =
      .failed (.arityMismatch Intrinsic.constructor 1 0) (created "Bench" .empty {}) := by
  have hbench : machine.get? "Bench" = some machine.types[1] := rfl
  have hfields : machine.fieldsOf machine.chainFuel machine.types[1] = some .empty := rfl
  have hthis : frame.this = .object ({} : Heap).objects.length := rfl
  have hos : frame.evalAll [] = pure [] := rfl
  have halike := chaining_ends_as_creation_iff (machine.call 1) (by decide) (by decide) (by decide)
    hbench hfields hthis hos (fun slot (hslot : none = some slot) => by cases hslot)
  exact (halike.1.mpr (.inl rfl)).trans rfl

theorem stool_is_restored :
    machine.instantiate "Stool" [.null] {} = .failed (.arityMismatch "Stool.<init>" 0 1) legless ∧
      machine.step (machine.call callDepth) frame
        (.invoke none .this ⟨"Stool", Intrinsic.constructor⟩ [.const .null]) legless =
          .done (.next frame) legless ∧
      machine.invoke (.object 0) "restore" [] legless = .done .null legless := by
  exact ⟨rfl, rfl, rfl⟩

end Stool

end SoapWrap
