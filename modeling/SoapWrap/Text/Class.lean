import SoapWrap.Text.Alphanumeric
import SoapWrap.Text.Cased
import SoapWrap.Text.CaseMap

/-!
Character classes and case mappings of all of Unicode. Each splits at the end of ASCII: below it
the answer is computed from the code point, above it from a table.
-/

namespace SoapWrap.Text

def isAscii (c : Char) : Bool := c.toNat < 128

def isBlank (c : Char) : Bool :=
  let n := c.toNat
  (9 ≤ n && n ≤ 13) || n == 32 || n == 0x85 || n == 0xA0 || n == 0x1680 ||
    (0x2000 ≤ n && n ≤ 0x200A) || n == 0x2028 || n == 0x2029 || n == 0x202F || n == 0x205F ||
    n == 0x3000

def isAsciiDigit (c : Char) : Bool := 48 ≤ c.toNat && c.toNat ≤ 57

def isAsciiUpper (c : Char) : Bool := 65 ≤ c.toNat && c.toNat ≤ 90

def isAsciiLower (c : Char) : Bool := 97 ≤ c.toNat && c.toNat ≤ 122

def isAsciiAlpha (c : Char) : Bool := isAsciiUpper c || isAsciiLower c

def isAsciiAlnum (c : Char) : Bool := isAsciiAlpha c || isAsciiDigit c

def isAlnum (c : Char) : Bool :=
  if isAscii c then isAsciiAlnum c else inSpans alphanumericSpans c

def isUpper (c : Char) : Bool :=
  if isAscii c then isAsciiUpper c else inSpans uppercaseSpans c

def isLower (c : Char) : Bool :=
  if isAscii c then isAsciiLower c else inSpans lowercaseSpans c

def isTitle (c : Char) : Bool := inSpans titlecaseSpans c

def isCased (c : Char) : Bool := isUpper c || isLower c || isTitle c

def isCaseIgnorable (c : Char) : Bool :=
  if isAscii c then c == '\'' || c == '.' || c == ':' || c == '^' || c == '\x60'
  else inSpans caseIgnorableSpans c

def asciiToLower (c : Char) : Char :=
  if isAsciiUpper c then Char.ofNat (c.toNat + 32) else c

def asciiToUpper (c : Char) : Char :=
  if isAsciiLower c then Char.ofNat (c.toNat - 32) else c

def lowerChar (c : Char) : List Char :=
  if isAscii c then [asciiToLower c]
  else ((expanded lowerExpansions c).or ((shifted lowerShifts c).map ([·]))).getD [c]

def upperChar (c : Char) : List Char :=
  if isAscii c then [asciiToUpper c]
  else ((expanded upperExpansions c).or ((shifted upperShifts c).map ([·]))).getD [c]

def leadsToCased (cs : List Char) : Bool :=
  match cs.dropWhile isCaseIgnorable with
  | [] => false
  | c :: _ => isCased c

/-- Lower-cases the text after `before`, which is given last character first. -/
def lowerAfter (before : List Char) : List Char → List Char
  | [] => []
  | c :: rest =>
    (if c == 'Σ' then [if leadsToCased before && !leadsToCased rest then 'ς' else 'σ']
      else lowerChar c) ++ lowerAfter (c :: before) rest

/-- Lower case of a text: a sigma that ends a word takes its final form. -/
def lower (cs : List Char) : List Char := lowerAfter [] cs

def capitalize : List Char → List Char
  | [] => []
  | c :: rest => upperChar c ++ rest

def lowerString (s : String) : String := .ofList (lower s.toList)

def asciiLowerString (s : String) : String := .ofList (s.toList.map asciiToLower)

def eqIgnoreAsciiCase (s t : String) : Bool := asciiLowerString s == asciiLowerString t

def hexValue (c : Char) : Option Nat :=
  if '0' ≤ c ∧ c ≤ '9' then some (c.toNat - 48)
  else if 'a' ≤ c ∧ c ≤ 'f' then some (c.toNat - 87)
  else if 'A' ≤ c ∧ c ≤ 'F' then some (c.toNat - 55)
  else none

def utf8Length : List Char → Nat
  | [] => 0
  | c :: rest => c.utf8Size + utf8Length rest

end SoapWrap.Text
