/-!
JSON documents. Members keep their order and repetitions. `unreadable` is a string, or an object
with a key, that is well formed but names a lone surrogate: it can be skipped and not be read.
-/

namespace SoapWrap

inductive Json where
  | null
  | bool (b : Bool)
  | int (i : Int)
  | real (lexeme : String)
  | str (s : String)
  | arr (items : List Json)
  | obj (members : List (String × Json))
  | unreadable

namespace Json

mutual
def beq : Json → Json → Bool
  | null, null => true
  | bool a, bool b => a == b
  | int a, int b => a == b
  | real a, real b => a == b
  | str a, str b => a == b
  | arr as, arr bs => beqItems as bs
  | obj as, obj bs => beqMembers as bs
  | unreadable, unreadable => true
  | _, _ => false
def beqItems : List Json → List Json → Bool
  | [], [] => true
  | a :: as, b :: bs => beq a b && beqItems as bs
  | _, _ => false
def beqMembers : List (String × Json) → List (String × Json) → Bool
  | [], [] => true
  | (k, a) :: as, (l, b) :: bs => k == l && beq a b && beqMembers as bs
  | _, _ => false
end

mutual
theorem eq_of_beq : {a b : Json} → beq a b = true → a = b
  | null, b, h => by cases b <;> simp_all [beq]
  | bool _, b, h => by cases b <;> simp_all [beq]
  | int _, b, h => by cases b <;> simp_all [beq]
  | real _, b, h => by cases b <;> simp_all [beq]
  | str _, b, h => by cases b <;> simp_all [beq]
  | arr as, b, h => by
    cases b with
    | arr bs => exact congrArg arr (eq_of_beqItems (by simpa [beq] using h))
    | _ => simp [beq] at h
  | obj as, b, h => by
    cases b with
    | obj bs => exact congrArg obj (eq_of_beqMembers (by simpa [beq] using h))
    | _ => simp [beq] at h
  | unreadable, b, h => by cases b <;> simp_all [beq]
theorem eq_of_beqItems : {as bs : List Json} → beqItems as bs = true → as = bs
  | [], [], _ => rfl
  | [], _ :: _, h => by simp [beqItems] at h
  | _ :: _, [], h => by simp [beqItems] at h
  | a :: as, b :: bs, h => by
    rw [beqItems, Bool.and_eq_true] at h
    rw [eq_of_beq h.1, eq_of_beqItems h.2]
theorem eq_of_beqMembers : {as bs : List (String × Json)} → beqMembers as bs = true → as = bs
  | [], [], _ => rfl
  | [], _ :: _, h => by simp [beqMembers] at h
  | _ :: _, [], h => by simp [beqMembers] at h
  | (k, a) :: as, (l, b) :: bs, h => by
    rw [beqMembers, Bool.and_eq_true, Bool.and_eq_true] at h
    rw [eq_of_beq h.1.2, eq_of_beqMembers h.2, LawfulBEq.eq_of_beq h.1.1]
end

mutual
theorem beq_self : (a : Json) → beq a a = true
  | null => rfl
  | bool b => by simp [beq]
  | int i => by simp [beq]
  | real l => by simp [beq]
  | str s => by simp [beq]
  | arr as => by rw [beq, beqItems_self as]
  | obj ms => by rw [beq, beqMembers_self ms]
  | unreadable => rfl
theorem beqItems_self : (as : List Json) → beqItems as as = true
  | [] => rfl
  | a :: as => by rw [beqItems, beq_self a, beqItems_self as]; rfl
theorem beqMembers_self : (ms : List (String × Json)) → beqMembers ms ms = true
  | [] => rfl
  | (k, a) :: ms => by rw [beqMembers, beq_self a, beqMembers_self ms]; simp
end

instance : BEq Json := ⟨beq⟩

instance : LawfulBEq Json where
  eq_of_beq := eq_of_beq
  rfl := beq_self _

instance : DecidableEq Json := fun a b =>
  if h : beq a b then isTrue (eq_of_beq h) else isFalse fun e => h (e ▸ beq_self a)

instance : Inhabited Json := ⟨null⟩

mutual
def depth : Json → Nat
  | arr items => depthItems items + 1
  | obj members => depthMembers members + 1
  | _ => 0
def depthItems : List Json → Nat
  | [] => 0
  | a :: rest => max (depth a) (depthItems rest)
def depthMembers : List (String × Json) → Nat
  | [] => 0
  | (_, a) :: rest => max (depth a) (depthMembers rest)
end

def member? (j : Json) (key : String) : Option Json :=
  match j with
  | obj members => members.lookup key
  | _ => none

def strings (ss : List String) : Json := arr (ss.map str)

def nat (n : Nat) : Json := int n

def ofOption (f : α → Json) : Option α → Json
  | none => null
  | some a => f a

end Json

end SoapWrap
