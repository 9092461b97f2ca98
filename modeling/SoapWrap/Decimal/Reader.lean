import SoapWrap.Decimal.Binary64

namespace SoapWrap.Decimal

def isDigit (c : Char) : Bool := '0' ≤ c && c ≤ '9'

def value (digits : List Char) : Nat := Nat.ofDigitChars 10 digits 0

def readInt? : List Char → Option Int
  | '-' :: ds => if !ds.isEmpty && ds.all isDigit then some (-(value ds : Int)) else none
  | '+' :: ds => if !ds.isEmpty && ds.all isDigit then some (value ds) else none
  | ds => if !ds.isEmpty && ds.all isDigit then some (value ds) else none

def readInt64? (cs : List Char) : Option Int :=
  (readInt? cs).filter fitsSigned

def readExponent? : List Char → Option Int
  | [] => some 0
  | 'e' :: cs => readInt? cs
  | 'E' :: cs => readInt? cs
  | _ => none

def readMagnitude? (cs : List Char) : Option UInt64 :=
  let whole := cs.takeWhile isDigit
  let rest := cs.dropWhile isDigit
  let (fraction, rest) := match rest with
    | '.' :: rest => (rest.takeWhile isDigit, rest.dropWhile isDigit)
    | rest => ([], rest)
  if whole.isEmpty && fraction.isEmpty then none
  else (readExponent? rest).map fun e =>
    Binary64.ofDecimal (value (whole ++ fraction)) (e - fraction.length)

def readFinite? (cs : List Char) : Option UInt64 :=
  (match cs with
    | '-' :: cs => (readMagnitude? cs).map Binary64.negate
    | '+' :: cs => readMagnitude? cs
    | cs => readMagnitude? cs).filter Binary64.isFinite

end SoapWrap.Decimal
