import SoapWrap.Metadata.Basic

/-!
Generated types: fields, tags, and methods whose bodies are straight-line operations over a
receiver, parameters and numbered local slots, with branches on null.
-/

namespace SoapWrap

namespace Intrinsic

def constructor : String := "<init>"

def listType : String := "list"
def listGet : String := "get"
def listAddAll : String := "add_all"
def listPush : String := "push"
def listLen : String := "len"

def holderType : String := "holder"
def holderValue : String := "value"

def exceptionType : String := "Exception"
def exceptionMessage : String := "message"
def getMessage : String := "getMessage"

end Intrinsic

inductive Constant where
  | null
  | int (i : Int)
  | text (s : String)
  deriving DecidableEq

inductive Operand where
  | this
  | param (i : Nat)
  | local (slot : Nat)
  | const (c : Constant)
  deriving DecidableEq

structure MethodRef where
  owner : String
  name : String
  deriving DecidableEq

inductive Op where
  | allocate (dst : Nat) (type : String) (args : List Operand)
  | readField (dst : Nat) (object : Operand) (field : String)
  | writeField (object : Operand) (field : String) (value : Operand)
  /-- Calls a method; a constructor is run against the target. -/
  | invoke (dst : Option Nat) (target : Operand) (method : MethodRef) (args : List Operand)
  | branchOnNull (value : Operand) (then_ otherwise : List Op)
  | return (value : Option Operand)

namespace Op

mutual
def decEq : (a b : Op) → Decidable (a = b)
  | allocate d t as, allocate e u bs =>
    if h : d = e ∧ t = u ∧ as = bs then isTrue (by rw [h.1, h.2.1, h.2.2])
    else isFalse fun x => by injection x; simp_all
  | readField d o f, readField e p g =>
    if h : d = e ∧ o = p ∧ f = g then isTrue (by rw [h.1, h.2.1, h.2.2])
    else isFalse fun x => by injection x; simp_all
  | writeField o f v, writeField p g w =>
    if h : o = p ∧ f = g ∧ v = w then isTrue (by rw [h.1, h.2.1, h.2.2])
    else isFalse fun x => by injection x; simp_all
  | invoke d t m as, invoke e u n bs =>
    if h : d = e ∧ t = u ∧ m = n ∧ as = bs then isTrue (by rw [h.1, h.2.1, h.2.2.1, h.2.2.2])
    else isFalse fun x => by injection x; simp_all
  | branchOnNull v as bs, branchOnNull w cs ds =>
    match decEqAll as cs, decEqAll bs ds with
    | isTrue h, isTrue k =>
      if hv : v = w then isTrue (by rw [hv, h, k])
      else isFalse fun x => by injection x; simp_all
    | isFalse h, _ => isFalse fun x => by injection x; simp_all
    | _, isFalse h => isFalse fun x => by injection x; simp_all
  | «return» v, «return» w =>
    if h : v = w then isTrue (by rw [h]) else isFalse fun x => by injection x; simp_all
  | allocate .., readField .. | allocate .., writeField .. | allocate .., invoke ..
  | allocate .., branchOnNull .. | allocate .., «return» _
  | readField .., allocate .. | readField .., writeField .. | readField .., invoke ..
  | readField .., branchOnNull .. | readField .., «return» _
  | writeField .., allocate .. | writeField .., readField .. | writeField .., invoke ..
  | writeField .., branchOnNull .. | writeField .., «return» _
  | invoke .., allocate .. | invoke .., readField .. | invoke .., writeField ..
  | invoke .., branchOnNull .. | invoke .., «return» _
  | branchOnNull .., allocate .. | branchOnNull .., readField .. | branchOnNull .., writeField ..
  | branchOnNull .., invoke .. | branchOnNull .., «return» _
  | «return» _, allocate .. | «return» _, readField .. | «return» _, writeField ..
  | «return» _, invoke .. | «return» _, branchOnNull .. => isFalse (fun x => nomatch x)
def decEqAll : (as bs : List Op) → Decidable (as = bs)
  | [], [] => isTrue rfl
  | [], _ :: _ => isFalse (fun x => nomatch x)
  | _ :: _, [] => isFalse (fun x => nomatch x)
  | a :: as, b :: bs =>
    match decEq a b, decEqAll as bs with
    | isTrue h, isTrue k => isTrue (by rw [h, k])
    | isFalse h, _ => isFalse fun x => h (List.cons.inj x).1
    | _, isFalse h => isFalse fun x => h (List.cons.inj x).2
end

instance : DecidableEq Op := decEq

mutual
def depth : Op → Nat
  | branchOnNull _ as bs => max (depthAll as) (depthAll bs) + 1
  | _ => 0
def depthAll : List Op → Nat
  | [] => 0
  | a :: rest => max (depth a) (depthAll rest)
end

end Op

inductive MethodKind where
  | constructor
  | onInstance
  deriving DecidableEq

structure FieldDef where
  name : String
  type : TypeExpr
  deriving DecidableEq

structure MethodDef where
  name : String
  kind : MethodKind
  params : List TypeExpr := []
  returns : TypeExpr
  tags : List Tag := []
  body : List Op
  deriving DecidableEq

structure TypeDef where
  name : String
  supertype : Option String := none
  capabilities : List String := []
  tags : List Tag := []
  fields : List FieldDef := []
  methods : List MethodDef := []
  deriving DecidableEq

namespace MethodDef

def ofConstructor (params : List TypeExpr) (body : List Op) : MethodDef :=
  { name := Intrinsic.constructor, kind := .constructor, params, returns := .void, body }

def ofInstance (name : String) (params : List TypeExpr) (returns : TypeExpr) (body : List Op) :
    MethodDef :=
  { name, kind := .onInstance, params, returns, body }

end MethodDef

namespace TypeDef

def method? (d : TypeDef) (name : String) : Option MethodDef := d.methods.find? (·.name = name)

def instanceMethod? (d : TypeDef) (name : String) : Option MethodDef :=
  d.methods.find? fun m => m.name = name ∧ m.kind = .onInstance

def constructor? (d : TypeDef) : Option MethodDef := d.methods.find? (·.kind = .constructor)

def field? (d : TypeDef) (name : String) : Option FieldDef := d.fields.find? (·.name = name)

def hasCapability (d : TypeDef) (capability : String) : Bool := d.capabilities.contains capability

end TypeDef

end SoapWrap
