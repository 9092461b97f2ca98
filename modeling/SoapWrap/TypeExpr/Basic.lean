import SoapWrap.Text.Dotted

namespace SoapWrap

inductive TypeExpr where
  | mk (base : String) (args : List TypeExpr)

namespace TypeExpr

def base : TypeExpr → String
  | ⟨b, _⟩ => b

def args : TypeExpr → List TypeExpr
  | ⟨_, as⟩ => as

mutual
def decEq : (a b : TypeExpr) → Decidable (a = b)
  | ⟨b, as⟩, ⟨c, bs⟩ =>
    match decEq' as bs with
    | isTrue h =>
      if hb : b = c then isTrue (by rw [hb, h])
      else isFalse fun e => hb (TypeExpr.mk.inj e).1
    | isFalse h => isFalse fun e => h (TypeExpr.mk.inj e).2
def decEq' : (as bs : List TypeExpr) → Decidable (as = bs)
  | [], [] => isTrue rfl
  | [], _ :: _ => isFalse (fun e => nomatch e)
  | _ :: _, [] => isFalse (fun e => nomatch e)
  | a :: as, b :: bs =>
    match decEq a b, decEq' as bs with
    | isTrue h, isTrue hs => isTrue (by rw [h, hs])
    | isFalse h, _ => isFalse fun e => h (List.cons.inj e).1
    | _, isFalse hs => isFalse fun e => hs (List.cons.inj e).2
end

instance : DecidableEq TypeExpr := decEq

instance : Inhabited TypeExpr := ⟨⟨"", []⟩⟩

def named (base : String) : TypeExpr := ⟨base, []⟩

def listBase : String := "list"

def holderBase : String := "holder"

def void : TypeExpr := named "void"

def listOf (t : TypeExpr) : TypeExpr := ⟨listBase, [t]⟩

def scalars : List String := [
  "string", "boolean", "byte", "short", "int", "long", "float", "double", "decimal",
  "integer", "bytes", "date", "datetime", "qname", "any"]

def isVoid (t : TypeExpr) : Bool :=
  t.args.isEmpty && (t.base == "void" || t.base == "()")

def isScalar (t : TypeExpr) : Bool :=
  t.args.isEmpty && scalars.contains t.base

def simpleName (t : TypeExpr) : String := Text.simpleName t.base

mutual
def walk : TypeExpr → List TypeExpr
  | ⟨b, as⟩ => ⟨b, as⟩ :: walkAll as
def walkAll : List TypeExpr → List TypeExpr
  | [] => []
  | a :: rest => a.walk ++ walkAll rest
end

mutual
def depth : TypeExpr → Nat
  | ⟨_, as⟩ => depthArgs as
def depthArgs : List TypeExpr → Nat
  | [] => 0
  | a :: rest => max (a.depth + 1) (depthArgs rest)
end

mutual
def render : TypeExpr → List Char
  | ⟨b, as⟩ => b.toList ++ renderArgs as
def renderArgs : List TypeExpr → List Char
  | [] => []
  | a :: rest => '<' :: (a.render ++ renderRest rest)
def renderRest : List TypeExpr → List Char
  | [] => ['>']
  | a :: rest => ',' :: ' ' :: (a.render ++ renderRest rest)
end

def text (t : TypeExpr) : String := .ofList t.render

instance : ToString TypeExpr := ⟨text⟩

end TypeExpr

end SoapWrap
