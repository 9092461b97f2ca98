import SoapWrap.Decimal.Binary64

/-!
The shortest decimal that reads back as a double. For one digit, two and so on, the neighbours of
the double on the grid of that many digits are tried; of two that read back the nearer is taken.
-/

namespace SoapWrap.Binary64

structure Decimal where
  digits : Nat
  exponent : Int
  deriving DecidableEq

inductive Tie where
  | up
  | even
  deriving DecidableEq

/-- A positive double with the ends of the reals that round to it, all over one denominator. -/
structure Rounding where
  value : Nat
  low : Nat
  high : Nat
  den : Nat
  closed : Bool

def rounding (p : Parts) : Rounding :=
  let narrow := p.mantissa = hidden ∧ p.exponent > -1074
  let below := if narrow then 1 else 2
  let num := pow2 p.exponent.toNat
  { value := 4 * p.mantissa * num
    low := (4 * p.mantissa - below) * num
    high := (4 * p.mantissa + 2) * num
    den := 4 * pow2 (-p.exponent).toNat
    closed := p.mantissa % 2 == 0 }

def inUnits (num den : Nat) (e : Int) : Nat × Nat :=
  (num * pow10 (-e).toNat, den * pow10 e.toNat)

def leadingExponent (num den : Nat) : Int :=
  let guess : Int := (Nat.toDigits 10 num).length - (Nat.toDigits 10 den).length
  let (n, d) := inUnits num den guess
  if n < d then guess - 1 else guess

def readsBack (r : Rounding) (k : Nat) (e : Int) : Bool :=
  let x := k * pow10 e.toNat * r.den
  let scale := pow10 (-e).toNat
  if r.closed then r.low * scale ≤ x && x ≤ r.high * scale
  else r.low * scale < x && x < r.high * scale

def onGrid (tie : Tie) (r : Rounding) (e : Int) : Option Nat :=
  let (n, d) := inUnits r.value r.den e
  let k := n / d
  let rest := n % d
  match readsBack r k e, rest != 0 && readsBack r (k + 1) e with
  | true, true =>
    if 2 * rest < d then some k
    else if 2 * rest > d then some (k + 1)
    else match tie with
      | .up => some (k + 1)
      | .even => some (if k % 2 = 0 then k else k + 1)
  | true, false => some k
  | false, true => some (k + 1)
  | false, false => none

def stripZeros : (fuel : Nat) → Decimal → Decimal
  | 0, d => d
  | fuel + 1, d =>
    if d.digits ≠ 0 ∧ d.digits % 10 = 0 then stripZeros fuel ⟨d.digits / 10, d.exponent + 1⟩ else d

/-- The shortest decimal of a positive finite double; seventeen digits always do. -/
def shortest (tie : Tie) (bits : UInt64) : Decimal :=
  let r := rounding (parts bits)
  let lead := leadingExponent r.value r.den
  match (List.range 17).findSome? fun (i : Nat) =>
      (onGrid tie r (lead - i)).map fun k => Decimal.mk k (lead - i) with
  | some d => stripZeros 20 d
  | none => ⟨0, 0⟩

structure Positional where
  whole : List Char
  fraction : List Char

def positional (d : Decimal) : Positional :=
  let digits := Nat.toDigits 10 d.digits
  if d.exponent ≥ 0 then ⟨digits ++ List.replicate d.exponent.toNat '0', []⟩
  else
    let places := d.exponent.natAbs
    if digits.length > places then
      ⟨digits.take (digits.length - places), digits.drop (digits.length - places)⟩
    else ⟨['0'], List.replicate (places - digits.length) '0' ++ digits⟩

def signText (bits : UInt64) : List Char := if isNegative bits then ['-'] else []

def plainText (bits : UInt64) : List Char :=
  if isNaN bits then "NaN".toList
  else signText bits ++
    if isInfinite bits then "inf".toList
    else if isZero bits then ['0']
    else
      let p := positional (shortest .up bits)
      if p.fraction.isEmpty then p.whole else p.whole ++ '.' :: p.fraction

def exponentText (e : Int) : List Char :=
  'e' :: ((if e < 0 then ['-'] else []) ++ Nat.toDigits 10 e.natAbs)

/-- The text of a double that always shows a point or an exponent; positional for exponents of
the first digit from -5 to 15. -/
def markedText (bits : UInt64) : List Char :=
  if isNaN bits then ".nan".toList
  else signText bits ++
    if isInfinite bits then ".inf".toList
    else if isZero bits then "0.0".toList
    else
      let d := shortest .even bits
      let digits := Nat.toDigits 10 d.digits
      let lead := d.exponent + digits.length - 1
      if -5 ≤ lead ∧ lead ≤ 15 then
        let p := positional d
        p.whole ++ '.' :: (if p.fraction.isEmpty then ['0'] else p.fraction)
      else match digits with
        | [] => []
        | [c] => c :: exponentText lead
        | c :: rest => c :: '.' :: (rest ++ exponentText lead)

end SoapWrap.Binary64
