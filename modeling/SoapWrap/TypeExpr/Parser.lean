import SoapWrap.Text.Class
import SoapWrap.TypeExpr.Basic

/-!
Reading type expressions. A refusal carries the text that is still unread at the fault, from
which its offset is counted.
-/

namespace SoapWrap.TypeExpr

inductive Reason where
  | expectedName
  | expectedSeparator
  | tooDeep
  | trailing
  deriving DecidableEq

def Reason.text : Reason → String
  | expectedName => "expected type name"
  | expectedSeparator => "expected ',' or '>'"
  | tooDeep => "type nesting too deep"
  | trailing => "unexpected trailing input"

structure Fault where
  reason : Reason
  rest : List Char

def maxDepth : Nat := 64

def isNameChar (c : Char) : Bool :=
  Text.isAlnum c || c == '_' || c == '.' || c == '$' || c == '(' || c == ')'

def skipBlanks (s : List Char) : List Char := s.dropWhile Text.isBlank

mutual
/-- Reads one expression that may nest `room` levels of arguments. -/
def readType : (fuel room : Nat) → List Char → Except Fault (TypeExpr × List Char)
  | 0, _, s => .error ⟨.expectedName, s⟩
  | fuel + 1, room, s =>
    let s := skipBlanks s
    let base := s.takeWhile isNameChar
    let rest := skipBlanks (s.dropWhile isNameChar)
    if base.isEmpty then .error ⟨.expectedName, s⟩
    else match rest with
      | '<' :: inner =>
        match room with
        | 0 => .error ⟨.tooDeep, rest⟩
        | room + 1 =>
          match readArgs fuel room inner with
          | .ok (args, rest) => .ok (⟨.ofList base, args⟩, rest)
          | .error e => .error e
      | _ => .ok (⟨.ofList base, []⟩, rest)
def readArgs : (fuel room : Nat) → List Char → Except Fault (List TypeExpr × List Char)
  | 0, _, s => .error ⟨.expectedName, s⟩
  | fuel + 1, room, s =>
    match readType fuel room s with
    | .error e => .error e
    | .ok (arg, rest) =>
      match skipBlanks rest with
      | ',' :: more =>
        match readArgs fuel room more with
        | .ok (args, rest) => .ok (arg :: args, rest)
        | .error e => .error e
      | '>' :: more => .ok ([arg], more)
      | rest => .error ⟨.expectedSeparator, rest⟩
end

def read (s : List Char) : Except Fault TypeExpr :=
  match readType (2 * s.length + 2) maxDepth s with
  | .error e => .error e
  | .ok (t, rest) =>
    match skipBlanks rest with
    | [] => .ok t
    | rest => .error ⟨.trailing, rest⟩

structure Invalid where
  input : String
  reason : Reason
  /-- Where the fault is, in bytes of UTF-8. -/
  offset : Nat
  deriving DecidableEq

def Invalid.detail (e : Invalid) : String :=
  e.reason.text ++ " at offset " ++ toString e.offset

def Invalid.message (e : Invalid) : String :=
  "Invalid type expression '" ++ e.input ++ "': " ++ e.detail

def parse (input : String) : Except Invalid TypeExpr :=
  match read input.toList with
  | .ok t => .ok t
  | .error e =>
    .error ⟨input, e.reason, Text.utf8Length input.toList - Text.utf8Length e.rest⟩

end SoapWrap.TypeExpr
