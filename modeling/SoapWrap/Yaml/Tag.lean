import SoapWrap.Text.Class
import SoapWrap.Yaml.Cursor

/-!
Names of anchors, tags and directives. A tag is written with a handle, which stands for the front
part of it, and escapes spell octets.
-/

namespace SoapWrap.Yaml

def isWordChar (c : Char) : Bool := Text.isAsciiAlnum c || c == '_' || c == '-'

def isUriChar (c : Char) : Bool := isWordChar c || ";/?:@&=+$.!~*'()".toList.contains c

def readName (c : Cursor) : Option (String × Cursor) :=
  let name := c.rest.takeWhile isWordChar
  let next := c.skipMany name.length
  let ends := atBlank next.rest || (next.rest.head?.any "?:,]\x7d%@\x60".toList.contains)
  if name.isEmpty || !ends then none else some (.ofList name, next)

def readOctet? : List Char → Option (Nat × List Char)
  | '%' :: a :: b :: rest =>
    match Text.hexValue a, Text.hexValue b with
    | some a, some b => some (16 * a + b, rest)
    | _, _ => none
  | _ => none

def readFurtherOctets? : (count : Nat) → (point : Nat) → List Char → Option Nat
  | 0, point, _ => some point
  | count + 1, point, cs =>
    match readOctet? cs with
    | some (octet, rest) =>
      if octet / 64 = 2 then readFurtherOctets? count (point * 64 + octet % 64) rest else none
    | none => none

def furtherOctets? (octet : Nat) : Option (Nat × Nat) :=
  if octet < 0x80 then some (0, octet)
  else if octet < 0xC0 then none
  else if octet < 0xE0 then some (1, octet % 32)
  else if octet < 0xF0 then some (2, octet % 16)
  else if octet < 0xF8 then some (3, octet % 8)
  else none

def pointChar? (count point : Nat) : Option Char :=
  let least := [0, 0x80, 0x800, 0x10000].getD count 0
  if point < least ∨ (0xD800 ≤ point ∧ point ≤ 0xDFFF) ∨ point > 0x10FFFF then none
  else some (Char.ofNat point)

/-- The text of a tag; what is none are octets that spell no character. -/
abbrev TagText := List (Option Char)

def readEscaped? (cs : List Char) : Option (Option Char × Nat) :=
  match readOctet? cs with
  | none => none
  | some (octet, rest) =>
    match furtherOctets? octet with
    | none => none
    | some (count, bits) =>
      (readFurtherOctets? count bits rest).map fun point => (pointChar? count point, 3 * (count + 1))

def readUri (bracketed : Bool) : (fuel : Nat) → Cursor → Option (TagText × Cursor)
  | 0, c => some ([], c)
  | fuel + 1, c =>
    match c.rest with
    | [] => some ([], c)
    | ch :: _ =>
      if ch == '%' then
        match readEscaped? c.rest with
        | none => none
        | some (e, n) => (readUri bracketed fuel (c.skipMany n)).map fun (text, c) => (e :: text, c)
      else if isUriChar ch || (bracketed && (ch == ',' || ch == '[' || ch == ']')) then
        (readUri bracketed fuel c.skip).map fun (text, c) => (some ch :: text, c)
      else some ([], c)

def TagText.cut (text : TagText) : TagText := text.takeWhile (· != some '\x00')

def readWholeUri (bracketed : Bool) (c : Cursor) : Option (TagText × Cursor) :=
  match readUri bracketed c.rest.length c with
  | some (text, next) => if text.isEmpty then none else some (text.cut, next)
  | none => none

def readHandle (c : Cursor) : List Char × Cursor :=
  let word := '!' :: (c.rest.drop 1).takeWhile isWordChar
  let next := c.skipMany word.length
  if next.rest.head? == some '!' then (word ++ ['!'], next.skip) else (word, next)

def isNamedHandle (handle : List Char) : Bool :=
  handle.length != 1 && handle.getLast? == some '!'

/-- Handle and suffix of a tag; the handle of a verbatim one is empty. -/
def readTag (c : Cursor) : Option ((String × TagText) × Cursor) :=
  match c.rest with
  | _ :: '<' :: _ =>
    match readWholeUri true (c.skipMany 2) with
    | some (suffix, next) =>
      if next.rest.head? == some '>' then some (("", suffix), next.skip) else none
    | none => none
  | _ =>
    let (handle, next) := readHandle c
    if isNamedHandle handle then
      (readWholeUri false next).map fun (suffix, next) => ((.ofList handle, suffix), next)
    else
      match readUri false next.rest.length next with
      | none => none
      | some (uri, next) =>
        let suffix := TagText.cut ((handle.drop 1).map some ++ uri)
        if suffix.isEmpty then some (("", [some '!']), next) else some (("!", suffix), next)

inductive Directive where
  | version (major minor : Nat)
  | tag (handle : String) (front : TagText)
  deriving DecidableEq

def readVersionPart (c : Cursor) : Option (Nat × Cursor) :=
  let digits := c.rest.takeWhile Text.isAsciiDigit
  if digits.isEmpty || 9 < digits.length then none
  else some (digits.foldl (fun n d => 10 * n + (d.toNat - 48)) 0, c.skipMany digits.length)

def readVersion (c : Cursor) : Option (Directive × Cursor) :=
  match readVersionPart c with
  | none => none
  | some (major, next) =>
    if next.rest.head? == some '.' then
      (readVersionPart next.skip).map fun (minor, next) => (.version major minor, next)
    else none

def readTagFront (c : Cursor) : Option (Directive × Cursor) :=
  if c.rest.head? != some '!' then none
  else
    let (handle, next) := readHandle c
    if (handle.length != 1 && !isNamedHandle handle) || !next.rest.head?.any isBlank then none
    else
      match readWholeUri true (next.skipWhile isBlank) with
      | some (front, next) =>
        if atBlank next.rest then some (.tag (.ofList handle) front, next) else none
      | none => none

def readDirective (c : Cursor) : Option (Directive × Cursor) :=
  let name := (c.rest.drop 1).takeWhile isWordChar
  let next := c.skipMany (name.length + 1)
  if !atBlank next.rest then none
  else
    let next := next.skipWhile isBlank
    let read :=
      if name = "YAML".toList then readVersion next
      else if name = "TAG".toList then readTagFront next
      else none
    match read with
    | some (directive, next) => next.endLine?.map (directive, ·)
    | none => none

end SoapWrap.Yaml
