import SoapWrap.Code.Codec
import SoapWrap.Proofs.Machine.Overstep

/-! Where a run leaves what a machine word can count and address: just where it has a value for a slot
that frames have no room for, or reads a missing parameter of the last number of a word. Code without
such slots and parameters stays within the words, whatever it is run on. -/

namespace SoapWrap

namespace Machine

variable {m : Machine} {f : Frame} {h k : Heap} {op : Op} {ops rest : List Op}
variable {fuel : Nat} {e : Entry}

section Run

structure Point where
  fuel : Nat
  frame : Frame
  heap : Heap
  op : Op

inductive Reaches (m : Machine) : Nat → Frame → Heap → List Op → Point → Prop
  | here {fuel : Nat} {f : Frame} {h : Heap} {op : Op} {rest : List Op} :
    Reaches m fuel f h (op :: rest) ⟨fuel, f, h, op⟩
  | later {fuel : Nat} {f g : Frame} {h k : Heap} {op : Op} {rest : List Op} {p : Point}
    (hstep : m.step (m.call fuel) f op h = .done (.next g) k) (hp : Reaches m fuel g k rest p) :
    Reaches m fuel f h (op :: rest) p
  | inside {fuel : Nat} {f : Frame} {h : Heap} {value : Operand} {v : Value} {as bs rest : List Op}
    {p : Point} (hv : f.eval value = pure v)
    (hp : Reaches m fuel f h (if v.isNull then as else bs) p) :
    Reaches m fuel f h (.branchOnNull value as bs :: rest) p
  | called {fuel : Nat} {f : Frame} {h : Heap} {op : Op} {rest : List Op} {e : Entry} {p : Point}
    (he : m.Enters f h op e) (hargs : e.args.length = e.method.params.length)
    (hp : Reaches m fuel { this := e.this, params := e.args } e.heap e.method.body p) :
    Reaches m (fuel + 1) f h (op :: rest) p

def Point.Oversteps (p : Point) (m : Machine) : Prop :=
  m.Oversteps (m.call p.fuel) p.frame p.heap p.op

def Strays (m : Machine) (fuel : Nat) (f : Frame) (h : Heap) (ops : List Op) : Prop :=
  ∃ p, m.Reaches fuel f h ops p ∧ p.Oversteps m

lemma not_strays_nil : ¬ m.Strays fuel f h [] := by
  rintro ⟨p, hp, -⟩
  cases hp

lemma strays_cons_iff : m.Strays fuel f h (op :: rest) ↔ m.Strays fuel f h [op] ∨
    ∃ g k, m.step (m.call fuel) f op h = .done (.next g) k ∧ m.Strays fuel g k rest := by
  constructor
  · rintro ⟨p, hp, hover⟩
    cases hp with
    | here => exact .inl ⟨_, .here, hover⟩
    | later hstep hp => exact .inr ⟨_, _, hstep, p, hp, hover⟩
    | inside hv hp => exact .inl ⟨p, .inside hv hp, hover⟩
    | called he hargs hp => exact .inl ⟨p, .called he hargs hp, hover⟩
  · rintro (⟨p, hp, hover⟩ | ⟨g, k, hstep, p, hp, hover⟩)
    · cases hp with
      | here => exact ⟨_, .here, hover⟩
      | later _ hp => exact absurd ⟨p, hp, hover⟩ not_strays_nil
      | inside hv hp => exact ⟨p, .inside hv hp, hover⟩
      | called he hargs hp => exact ⟨p, .called he hargs hp, hover⟩
    · exact ⟨p, .later hstep hp, hover⟩

lemma strays_branch_iff {value : Operand} {as bs : List Op} :
    m.Strays fuel f h [.branchOnNull value as bs] ↔ f.Overreads [value] ∨
      ∃ v, f.eval value = pure v ∧ m.Strays fuel f h (if v.isNull then as else bs) := by
  constructor
  · rintro ⟨p, hp, hover⟩
    cases hp with
    | here =>
      cases hover with
      | operand hover => exact .inl hover
      | slot hslot => cases hslot
    | later _ hp => exact absurd ⟨p, hp, hover⟩ not_strays_nil
    | inside hv hp => exact .inr ⟨_, hv, p, hp, hover⟩
    | called he => cases he
  · rintro (hover | ⟨v, hv, p, hp, hover⟩)
    · exact ⟨_, .here, .operand hover⟩
    · exact ⟨p, .inside hv hp, hover⟩

def CallsSettled (m : Machine) (fuel : Nat) : Prop :=
  ∀ e : Entry, e.run (m.call fuel) = .exceeded .word ↔ ∃ n, fuel = n + 1 ∧
    e.args.length = e.method.params.length ∧
    m.Strays n { this := e.this, params := e.args } e.heap e.method.body

lemma step_plain_exceeded_iff (hcall : m.CallsSettled fuel) (hbranches : op.branches = []) :
    m.step (m.call fuel) f op h = .exceeded .word ↔ m.Strays fuel f h [op] := by
  rw [step_exceeded_iff hbranches]
  constructor
  · rintro (hover | ⟨e, he, hexceeded⟩)
    · exact ⟨_, .here, hover⟩
    · obtain ⟨n, rfl, hargs, p, hp, hover⟩ := (hcall e).mp hexceeded
      exact ⟨p, .called he hargs hp, hover⟩
  · rintro ⟨p, hp, hover⟩
    cases hp with
    | here => exact .inl hover
    | later _ hp => exact absurd ⟨p, hp, hover⟩ not_strays_nil
    | inside => cases hbranches
    | called he hargs hp => exact .inr ⟨_, he, (hcall _).mpr ⟨_, rfl, hargs, p, hp, hover⟩⟩

-- The recursion is over the operations and their branches. It does not follow calls, which take
-- fuel away and are settled before.
mutual
lemma step_exceeded_iff_strays (hcall : m.CallsSettled fuel) :
    (op : Op) → (f : Frame) → (h : Heap) →
    (m.step (m.call fuel) f op h = .exceeded .word ↔ m.Strays fuel f h [op])
  | .branchOnNull value as bs, f, h => by
    rw [step_branch_exceeded_iff, strays_branch_iff]
    refine or_congr_right (exists_congr fun v => and_congr_right fun _ => ?_)
    split
    · exact steps_exceeded_iff_strays hcall as f h
    · exact steps_exceeded_iff_strays hcall bs f h
  | .allocate .., _, _ | .readField .., _, _ | .writeField .., _, _ | .invoke .., _, _
  | .return .., _, _ => step_plain_exceeded_iff hcall rfl
lemma steps_exceeded_iff_strays (hcall : m.CallsSettled fuel) :
    (ops : List Op) → (f : Frame) → (h : Heap) →
    (m.steps (m.call fuel) f ops h = .exceeded .word ↔ m.Strays fuel f h ops)
  | [], f, h => by
    rw [steps_nil]
    exact iff_of_false (Exec.InWords.pure _ h) not_strays_nil
  | op :: rest, f, h => by
    rw [steps_cons_exceeded_iff, strays_cons_iff, step_exceeded_iff_strays hcall op f h]
    refine or_congr_right (exists₂_congr fun g k => and_congr_right fun _ => ?_)
    exact steps_exceeded_iff_strays hcall rest g k
end

lemma callsSettled (m : Machine) (fuel : Nat) : m.CallsSettled fuel := by
  induction fuel with
  | zero =>
    intro e
    refine iff_of_false ?_ ?_
    · intro hexceeded
      cases hexceeded
    · rintro ⟨n, hn, -⟩
      cases hn
  | succ fuel ih =>
    intro e
    simp only [Nat.add_right_cancel_iff, exists_eq_left', Entry.run, call]
    split
    · next hargs =>
      refine iff_of_false (Exec.InWords.fail _ e.heap) fun h => hargs h.1
    · next hargs =>
      rw [Exec.bind_exceeded_iff, steps_exceeded_iff_strays ih,
        and_iff_right (Decidable.not_not.mp hargs)]
      refine or_iff_left ?_
      rintro ⟨flow, k, -, hexceeded⟩
      cases flow <;> cases hexceeded

end Run

section Roomy

def Roomy (m : Machine) : Prop := ∀ d ∈ m.types, ∀ c ∈ d.methods, ∀ op ∈ c.body, op.Roomy

lemma mem_of_lookup {method name : String} {c : MethodDef}
    (h : m.lookup method fuel name = .found c) : ∃ d ∈ m.types, c ∈ d.methods := by
  induction fuel generalizing name with
  | zero => cases h
  | succ fuel ih =>
    rw [lookup] at h
    split at h
    · split at h <;> cases h
    cases hd : m.get? name with
    | none =>
      rw [hd] at h
      cases h
    | some d =>
      simp only [hd] at h
      cases hfound : d.instanceMethod? method with
      | some c' =>
        rw [hfound] at h
        cases h
        exact ⟨d, (get?_eq_some hd).1, List.mem_of_find?_eq_some hfound⟩
      | none =>
        simp only [hfound] at h
        cases hparent : d.supertype with
        | none =>
          rw [hparent] at h
          cases h
        | some parent =>
          rw [hparent] at h
          exact ih h

lemma Enters.loaded (h : m.Enters f k op e) : ∃ d ∈ m.types, e.method ∈ d.methods := by
  cases h with
  | allocate _ he =>
    cases he with
    | intro _ hd _ hc => exact ⟨_, (get?_eq_some hd).1, List.mem_of_find?_eq_some hc⟩
  | invoke _ _ he =>
    cases he with
    | chained _ _ _ _ hd hc => exact ⟨_, (get?_eq_some hd).1, List.mem_of_find?_eq_some hc⟩
    | invoked _ _ _ _ hc => exact mem_of_lookup hc

lemma Reaches.roomy {p : Point} (hm : m.Roomy) (h : m.Reaches fuel f k ops p)
    (hops : ∀ op ∈ ops, op.Roomy) : p.op.Roomy := by
  induction h with
  | here => exact hops _ List.mem_cons_self
  | later _ _ ih => exact ih fun op hop => hops op (List.mem_cons_of_mem _ hop)
  | inside _ _ ih =>
    cases hops _ List.mem_cons_self with
    | intro _ _ hbranches =>
      refine ih (hbranches _ ?_)
      split
      · exact List.mem_cons_self
      · exact List.mem_cons_of_mem _ List.mem_cons_self
  | called he _ _ ih =>
    obtain ⟨d, hd, hc⟩ := he.loaded
    exact ih (hm d hd _ hc)

end Roomy

end Machine

lemma Frame.Overreads.exists_wide {f : Frame} {os : List Operand} (h : f.Overreads os) :
    ∃ i, .param i ∈ os ∧ wordCount ≤ i + 1 := by
  induction h with
  | here _ hwide => exact ⟨_, List.mem_cons_self, hwide⟩
  | later _ _ ih =>
    obtain ⟨i, hi, hwide⟩ := ih
    exact ⟨i, List.mem_cons_of_mem _ hi, hwide⟩

namespace Machine

lemma Point.not_oversteps {m : Machine} {p : Point} (h : p.op.Roomy) : ¬ p.Oversteps m := by
  obtain ⟨hparam, hslot, -⟩ := h
  intro hover
  cases hover with
  | operand hover =>
    obtain ⟨i, hi, hwide⟩ := hover.exists_wide
    exact Nat.not_lt.mpr hwide (hparam i hi)
  | slot hs hwide => exact Nat.not_lt.mpr hwide (hslot _ hs)

theorem word_exceeded_iff_strays (m : Machine) (fuel : Nat) (f : Frame) (h : Heap)
    (ops : List Op) :
    (m.steps (m.call fuel) f ops h = .exceeded .word ↔
      ∃ p, m.Reaches fuel f h ops p ∧ p.Oversteps m) ∧
    (m.Roomy → (∀ op ∈ ops, op.Roomy) → m.steps (m.call fuel) f ops h ≠ .exceeded .word) := by
  have hstrays := steps_exceeded_iff_strays (callsSettled m fuel) ops f h
  refine ⟨hstrays, fun hm hops hexceeded => ?_⟩
  obtain ⟨p, hp, hover⟩ := hstrays.mp hexceeded
  exact Point.not_oversteps (hp.roomy hm hops) hover

end Machine

namespace Brim

open Machine

def lastWord : Nat := 18446744073709551615

def pour : List Op := [.allocate lastWord "list" []]

def brim : TypeDef where
  name := "Brim"
  methods := [.ofInstance "pour" [] .void pour,
    .ofInstance "drain" [] .void [.return (some (.param lastWord))],
    .ofInstance "look" [] .void [.return (some (.local lastWord))]]

def level : List Op := [.allocate 3 "list" [], .return (some (.local 3))]

theorem pour_strays :
    (∃ p, Machine.Reaches {} 1 { this := .null, params := [] } {} pour p ∧ p.Oversteps {}) ∧
      Machine.steps {} (Machine.call {} 1) { this := .null, params := [] } level {} ≠
        .exceeded .word := by
  refine ⟨(word_exceeded_iff_strays {} 1 { this := .null, params := [] } {} pour).1.mp rfl, ?_⟩
  refine (word_exceeded_iff_strays {} 1 { this := .null, params := [] } {} level).2 ?_ ?_
  · intro d hd
    cases hd
  · intro op hop
    simp only [level, List.mem_cons, List.not_mem_nil, or_false] at hop
    rcases hop with rfl | rfl
    · exact .intro (by simp [Op.operands]) (by simp [Op.slot?, slotCount]) (by simp [Op.branches])
    · exact .intro (by simp [Op.operands]) (by simp [Op.slot?]) (by simp [Op.branches])

theorem brim_exceeds_words : TypeDef.ofJson? brim.toJson = some brim ∧
    ∃ m, emit brim {} = .ok m ∧ ∀ fields,
      m.invoke (.object 0) "pour" [] { objects := [⟨"Brim", fields⟩] } = .exceeded .word ∧
      m.invoke (.object 0) "drain" [] { objects := [⟨"Brim", fields⟩] } = .exceeded .word ∧
      m.invoke (.object 0) "look" [] { objects := [⟨"Brim", fields⟩] } =
        .failed (.unsetLocal lastWord) { objects := [⟨"Brim", fields⟩] } := by
  refine ⟨by decide +kernel, { types := [brim] }, rfl, fun fields => ⟨?_, ?_, ?_⟩⟩
  · rfl
  · rfl
  · rfl

end Brim

end SoapWrap
