import SoapWrap.Text.Class
import SoapWrap.Text.Identifier

namespace SoapWrap.Trait

inductive Literal where
  | text (s : String)
  | int (digits : String)
  | float
  | other
  deriving DecidableEq

def isIdentStart (c : Char) : Bool :=
  if Text.isAscii c then Text.isAsciiAlpha c || c == '_' else Text.inSpans Text.identStartSpans c

def isIdentPart (c : Char) : Bool :=
  if Text.isAscii c then Text.isAsciiAlnum c || c == '_'
  else Text.inSpans Text.identContinueSpans c

def dropWord : List Char → Option (List Char)
  | c :: rest => if isIdentStart c then some (rest.dropWhile isIdentPart) else none
  | [] => none

def dropSuffix (cs : List Char) : List Char := (dropWord cs).getD cs

namespace Literal

inductive Alphabet where
  | text
  | bytes
  | nonzero
  deriving DecidableEq

def Alphabet.allows (a : Alphabet) (c : Char) : Bool :=
  match a with
  | text => true
  | bytes => Text.isAscii c
  | nonzero => c != '\x00'

def hexEscape? (a : Alphabet) (high low : Char) : Option Char := do
  let h ← Text.hexValue high
  let l ← Text.hexValue low
  if (a = .text ∧ 8 ≤ h) ∨ (a = .nonzero ∧ h * 16 + l = 0) then none
  else some (Char.ofNat (h * 16 + l))

def readCodePoint (value count : Nat) : List Char → Option (Char × List Char)
  | [] => none
  | c :: rest =>
    match Text.hexValue c with
    | some d => if count = 6 then none else readCodePoint (value * 16 + d) (count + 1) rest
    | none =>
      if count = 0 then none
      else if c = '_' then readCodePoint value count rest
      else if c = '}' ∧ value.isValidChar then some (Char.ofNat value, rest)
      else none

def simpleEscape? (a : Alphabet) (c : Char) : Option Char :=
  if c = 'n' then some '\n'
  else if c = 'r' then some '\r'
  else if c = 't' then some '\t'
  else if c = '0' ∧ a ≠ .nonzero then some '\x00'
  else if c = '\\' ∨ c = '\'' ∨ c = '"' then some c
  else none

def readEscape (a : Alphabet) : List Char → Option (Char × List Char)
  | 'x' :: high :: low :: rest => (hexEscape? a high low).map (·, rest)
  | 'u' :: '{' :: rest =>
    if a = .bytes then none
    else (readCodePoint 0 0 rest).filter fun (c, _) => a.allows c
  | c :: rest => (simpleEscape? a c).map (·, rest)
  | [] => none

def dropContinuation (last : Char) : List Char → Option (List Char)
  | [] => none
  | c :: rest =>
    if last = '\r' then (if c = '\n' then dropContinuation '\n' rest else none)
    else if c = ' ' ∨ c = '\t' ∨ c = '\n' ∨ c = '\r' then dropContinuation c rest
    else some (c :: rest)

def readQuoted (a : Alphabet) : (fuel : Nat) → List Char → Option (List Char × List Char)
  | 0, _ => none
  | fuel + 1, cs =>
    let next (value : List Char) (rest : List Char) :=
      (readQuoted a fuel rest).map fun (s, rest) => (value ++ s, rest)
    match cs with
    | [] => none
    | '"' :: rest => some ([], rest)
    | '\\' :: '\n' :: rest => (dropContinuation '\n' rest).bind (next [])
    | '\\' :: '\r' :: rest => (dropContinuation '\r' rest).bind (next [])
    | '\\' :: rest => (readEscape a rest).bind fun (c, rest) => next [c] rest
    | '\r' :: '\n' :: rest => next ['\n'] rest
    | '\r' :: _ => none
    | c :: rest => if a.allows c then next [c] rest else none

def readRawContent (a : Alphabet) (hashes : List Char) :
    List Char → Option (List Char × List Char)
  | [] => none
  | c :: rest =>
    if c = '"' ∧ hashes.isPrefixOf rest then some ([], rest.drop hashes.length)
    else if (c = '\r' ∧ rest.head? ≠ some '\n') ∨ !a.allows c then none
    else (readRawContent a hashes rest).map fun (s, rest) => (c :: s, rest)

def readRaw (a : Alphabet) (cs : List Char) : Option (List Char × List Char) :=
  let hashes := cs.takeWhile (· = '#')
  match cs.drop hashes.length with
  | '"' :: rest => if hashes.length ≤ 255 then readRawContent a hashes rest else none
  | _ => none

def readChar (a : Alphabet) (cs : List Char) : Option (List Char) :=
  let read := match cs with
    | '\\' :: rest => (readEscape a rest).map (·.2)
    | c :: rest => if a.allows c then some rest else none
    | [] => none
  match read with
  | some ('\'' :: rest) => some rest
  | _ => none

def isDecimalPart (c : Char) : Bool := Text.isAsciiDigit c || c == '_'

def dropExponent (before : Option (List Char)) (signed valued : Bool) :
    List Char → Option (List Char)
  | [] => if valued then some [] else before
  | c :: rest =>
    if c = '+' ∨ c = '-' then
      if valued then some (c :: rest)
      else if signed then before
      else dropExponent before true valued rest
    else if Text.isAsciiDigit c then dropExponent before signed true rest
    else if c = '_' then dropExponent before signed valued rest
    else if valued then some (c :: rest)
    else before

def dropFloat (cs : List Char) : Option (List Char) :=
  match cs with
  | [] => none
  | c :: rest =>
    if !Text.isAsciiDigit c then none
    else match rest.dropWhile isDecimalPart with
      | '.' :: fraction =>
        if fraction.head?.any fun c => c == '.' || isIdentStart c then none
        else match fraction.dropWhile isDecimalPart with
          | e :: exponent =>
            if e = 'e' ∨ e = 'E' then dropExponent (some (e :: exponent)) false false exponent
            else some (e :: exponent)
          | [] => some []
      | e :: exponent =>
        if e = 'e' ∨ e = 'E' then dropExponent none false false exponent else none
      | [] => none

def splitBase : List Char → Nat × List Char
  | '0' :: 'x' :: rest => (16, rest)
  | '0' :: 'o' :: rest => (8, rest)
  | '0' :: 'b' :: rest => (2, rest)
  | cs => (10, cs)

def dropDigits (base : Nat) (valued : Bool) : List Char → Option (List Char)
  | [] => if valued then some [] else none
  | c :: rest =>
    if c = '_' then (if !valued && base == 10 then none else dropDigits base valued rest)
    else match Text.hexValue c with
      | some d =>
        if d < base then dropDigits base true rest
        else if d < 10 ∨ !valued then none
        else some (c :: rest)
      | none => if valued then some (c :: rest) else none

def dropInt (cs : List Char) : Option (List Char) :=
  let (base, digits) := splitBase cs
  dropDigits base false digits

def dropNumber (cs : List Char) : Option (List Char) :=
  let ended (rest : List Char) : Option (List Char) :=
    let rest := dropSuffix rest
    if rest.head?.any isIdentPart then none else some rest
  ((dropFloat cs).bind ended).or ((dropInt cs).bind ended)

def isSuffix (cs : List Char) : Bool :=
  match cs with
  | [] => false
  | c :: rest => isIdentStart c && rest.all isIdentPart

def isExponent (valued : Bool) : List Char → Bool
  | [] => valued
  | c :: rest =>
    if c = '_' then isExponent valued rest
    else if c = '+' ∨ c = '-' then true
    else if Text.isAsciiDigit c then isExponent true rest
    else valued && isSuffix (c :: rest)

def wholeValue (base value : Nat) (valued : Bool) : List Char → Option Nat
  | [] => if valued then some value else none
  | c :: rest =>
    let ended := if valued && isSuffix (c :: rest) then some value else none
    if c = '_' then wholeValue base value valued rest
    else match (Text.hexValue c).filter fun d => d < 10 ∨ 10 < base with
      | some d => if d < base then wholeValue base (value * base + d) true rest else none
      | none =>
        if base = 10 ∧ (c = '.' ∨ ((c = 'e' ∨ c = 'E') ∧ isExponent false rest)) then none
        else ended

def ofNumber (cs : List Char) : Literal :=
  let (base, digits) := splitBase cs
  match wholeValue base 0 false digits with
  | some n => int (toString n)
  | none => float

def negate? : Literal → Option Literal
  | int digits => some (int ("-" ++ digits))
  | float => some float
  | _ => none

def scan (cs : List Char) : Option (Literal × List Char) :=
  let string (make : String → Literal) (read : Option (List Char × List Char)) :=
    read.map fun (s, rest) => (make (.ofList s), dropSuffix rest)
  let quoted (a : Alphabet) (make : String → Literal) (rest : List Char) :=
    string make (readQuoted a (rest.length + 1) rest)
  let raw (a : Alphabet) (make : String → Literal) (rest : List Char) := string make (readRaw a rest)
  let noText : String → Literal := fun _ => other
  match cs with
  | '"' :: rest => quoted .text text rest
  | 'r' :: rest => raw .text text rest
  | 'b' :: '"' :: rest => quoted .bytes noText rest
  | 'b' :: 'r' :: rest => raw .bytes noText rest
  | 'c' :: '"' :: rest => quoted .nonzero noText rest
  | 'c' :: 'r' :: rest => raw .nonzero noText rest
  | 'b' :: '\'' :: rest => (readChar .bytes rest).map fun rest => (other, dropSuffix rest)
  | '\'' :: rest => (readChar .text rest).map fun rest => (other, dropSuffix rest)
  | cs =>
    (dropNumber cs).map fun rest => (ofNumber (cs.take (cs.length - rest.length)), rest)

end Literal

end SoapWrap.Trait
