/-!
Integers in words of 64 bits, and doubles as bit patterns. A finite double is a whole number of units
in a power of two; a ratio of whole numbers is rounded to the nearest double, a tie to the even one.
-/

namespace SoapWrap

def pow2 (n : Nat) : Nat := Nat.pow 2 n

def pow10 (n : Nat) : Nat := Nat.pow 10 n

def fitsSigned (i : Int) : Bool := -0x8000000000000000 ≤ i && i < 0x8000000000000000

def fitsUnsigned (i : Int) : Bool := 0 ≤ i && i < 0x10000000000000000

namespace Binary64

def signBit : UInt64 := 0x8000000000000000
def infinity : UInt64 := 0x7ff0000000000000
def nan : UInt64 := 0x7ff8000000000000

def isNegative (bits : UInt64) : Bool := bits &&& signBit != 0

def magnitude (bits : UInt64) : UInt64 := bits &&& 0x7fffffffffffffff

def isNaN (bits : UInt64) : Bool := magnitude bits > infinity

def isInfinite (bits : UInt64) : Bool := magnitude bits == infinity

def isFinite (bits : UInt64) : Bool := magnitude bits < infinity

def isZero (bits : UInt64) : Bool := magnitude bits == 0

/-- The zeros are equal, and what is no number differs from itself. -/
def equal (a b : UInt64) : Bool :=
  !isNaN a && !isNaN b && (a == b || (isZero a && isZero b))

/-- The leading bit of a mantissa, which the pattern leaves out. -/
def hidden : Nat := 0x10000000000000

/-- The magnitude of a finite double as `mantissa * 2 ^ exponent`. -/
structure Parts where
  mantissa : Nat
  exponent : Int

def parts (bits : UInt64) : Parts :=
  let m := (magnitude bits).toNat
  let e : Nat := m / hidden
  let f : Nat := m % hidden
  if e = 0 then ⟨f, -1074⟩ else ⟨f + hidden, (e : Int) - 1075⟩

def scaled (num den : Nat) (e : Int) : Nat × Nat :=
  if e < 0 then (num * pow2 e.natAbs, den) else (num, den * pow2 e.natAbs)

def divRound (num den : Nat) : Nat :=
  let q := num / den
  let r := num % den
  if 2 * r > den ∨ (2 * r = den ∧ q % 2 = 1) then q + 1 else q

def ofRatio (num den : Nat) : UInt64 :=
  if num = 0 ∨ den = 0 then 0
  else
    let guess : Int := (num.log2 : Int) - den.log2 - 52
    let (n, d) := scaled num den guess
    let e := max (if n < d * hidden then guess - 1 else guess) (-1074)
    let (n, d) := scaled num den e
    let m := divRound n d
    let (m, e) := if m ≥ 2 * hidden then (m / 2, e + 1) else (m, e)
    if e > 971 then infinity
    else if m < hidden then UInt64.ofNat m
    else UInt64.ofNat ((e + 1075).toNat * hidden + (m - hidden))

def negate (bits : UInt64) : UInt64 := bits ^^^ signBit

def ofNat (n : Nat) : UInt64 := ofRatio n 1

/-- The double nearest to `digits * 10 ^ exponent`. Beyond these exponents it is zero or infinite
whatever the digits. -/
def ofDecimal (digits : Nat) (exponent : Int) : UInt64 :=
  if digits = 0 then 0
  else
    let scale := exponent + (Nat.toDigits 10 digits).length
    if scale > 400 then infinity
    else if scale < -400 then 0
    else if exponent < 0 then ofRatio digits (pow10 exponent.natAbs)
    else ofRatio (digits * pow10 exponent.natAbs) 1

end Binary64

end SoapWrap
