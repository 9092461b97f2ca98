namespace SoapWrap.Text

/-- The code points `first, first + step, …, last`. -/
structure Span where
  first : Nat
  last : Nat
  step : Nat

def Span.contains (s : Span) (n : Nat) : Bool :=
  s.first ≤ n && n ≤ s.last && (n - s.first) % s.step == 0

structure Shift where
  span : Span
  distance : Int

def inSpans (spans : List Span) (c : Char) : Bool :=
  spans.any (·.contains c.toNat)

def shifted (shifts : List Shift) (c : Char) : Option Char :=
  (shifts.find? (·.span.contains c.toNat)).map fun s => Char.ofNat ((c.toNat : Int) + s.distance).toNat

def expanded (table : List (Nat × List Nat)) (c : Char) : Option (List Char) :=
  (table.lookup c.toNat).map (·.map Char.ofNat)

end SoapWrap.Text
