import SoapWrap.Json.Basic
import SoapWrap.Json.Quoted

namespace SoapWrap.Json

def isSpace (c : Char) : Bool := c == ' ' || c == '\n' || c == '\t' || c == '\r'

def skipSpace (s : List Char) : List Char := s.dropWhile isSpace

def isDigit (c : Char) : Bool := '0' ≤ c && c ≤ '9'

def readDigits (s : List Char) : Option (List Char × List Char) :=
  match s.takeWhile isDigit with
  | [] => none
  | ds => some (ds, s.dropWhile isDigit)

def readWhole (s : List Char) : Option (List Char × List Char) := do
  let (ds, rest) ← readDigits s
  match ds with
  | '0' :: _ :: _ => none
  | _ => some (ds, rest)

def readFraction : List Char → Option (List Char × List Char)
  | '.' :: rest => do
    let (ds, rest) ← readDigits rest
    return ('.' :: ds, rest)
  | s => some ([], s)

def readExponent : List Char → Option (List Char × List Char)
  | 'e' :: rest => readPower 'e' rest
  | 'E' :: rest => readPower 'E' rest
  | s => some ([], s)
where
  readPower (mark : Char) : List Char → Option (List Char × List Char)
    | '+' :: rest => (readDigits rest).map fun (ds, rest) => (mark :: '+' :: ds, rest)
    | '-' :: rest => (readDigits rest).map fun (ds, rest) => (mark :: '-' :: ds, rest)
    | rest => (readDigits rest).map fun (ds, rest) => (mark :: ds, rest)

def readUnsigned (negative : Bool) (s : List Char) : Option (Json × List Char) := do
  let (whole, rest) ← readWhole s
  let (fraction, rest) ← readFraction rest
  let (exponent, rest) ← readExponent rest
  let n := Nat.ofDigitChars 10 whole 0
  if fraction.isEmpty && exponent.isEmpty && !(negative && n == 0) then
    return (int (if negative then -(n : Int) else n), rest)
  else
    return (real (.ofList ((if negative then ['-'] else []) ++ whole ++ fraction ++ exponent)), rest)

def readNumber : List Char → Option (Json × List Char)
  | '-' :: rest => readUnsigned true rest
  | s => readUnsigned false s

def readText (s : List Char) : Option (Option String × List Char) := do
  let (points, rest) ← unescape s
  return ((decodePoints points).map .ofList, rest)

def dropText (lead s : List Char) : Option (List Char) :=
  match lead, s with
  | [], s => some s
  | _ :: _, [] => none
  | a :: lead, b :: s => if a = b then dropText lead s else none

def readWord (word : String) (value : Json) (s : List Char) : Option (Json × List Char) :=
  (dropText word.toList s).map (value, ·)

def ofMembers (members : List (Option String × Json)) : Json :=
  match members.mapM fun (k, v) => k.map (·, v) with
  | some members => obj members
  | none => unreadable

mutual
def readValue : Nat → List Char → Option (Json × List Char)
  | 0, _ => none
  | fuel + 1, s =>
    match s with
    | '"' :: rest => (readText rest).map fun (t, rest) => ((t.map str).getD unreadable, rest)
    | '[' :: rest =>
      match skipSpace rest with
      | ']' :: rest => some (arr [], rest)
      | rest => (readItems fuel rest).map fun (items, rest) => (arr items, rest)
    | '{' :: rest =>
      match skipSpace rest with
      | '}' :: rest => some (obj [], rest)
      | rest => (readMembers fuel rest).map fun (ms, rest) => (ofMembers ms, rest)
    | 'n' :: _ => readWord "null" null s
    | 't' :: _ => readWord "true" (bool true) s
    | 'f' :: _ => readWord "false" (bool false) s
    | s => readNumber s
def readItems : Nat → List Char → Option (List Json × List Char)
  | 0, _ => none
  | fuel + 1, s =>
    match readValue fuel s with
    | none => none
    | some (item, rest) =>
      match skipSpace rest with
      | ']' :: rest => some ([item], rest)
      | ',' :: rest =>
        (readItems fuel (skipSpace rest)).map fun (items, rest) => (item :: items, rest)
      | _ => none
def readMembers : Nat → List Char → Option (List (Option String × Json) × List Char)
  | 0, _ => none
  | fuel + 1, s =>
    match s with
    | '"' :: rest =>
      match readText rest with
      | none => none
      | some (key, rest) =>
        match skipSpace rest with
        | ':' :: rest =>
          match readValue fuel (skipSpace rest) with
          | none => none
          | some (value, rest) =>
            match skipSpace rest with
            | '}' :: rest => some ([(key, value)], rest)
            | ',' :: rest =>
              (readMembers fuel (skipSpace rest)).map fun (ms, rest) => ((key, value) :: ms, rest)
            | _ => none
        | _ => none
    | _ => none
end

/-- Reads a whole text; every step consumes a character, so twice its length is fuel enough. -/
def read (s : List Char) : Option Json :=
  match readValue (2 * s.length + 2) (skipSpace s) with
  | some (j, rest) => if (skipSpace rest).isEmpty then some j else none
  | none => none

def parse (text : String) : Option Json := read text.toList

end SoapWrap.Json
