import SoapWrap.Text.Class
import SoapWrap.Yaml.Cursor

/-!
Scalars of YAML: plain ones, and ones in single or double quotes. Blanks inside a scalar are kept,
a single line break reads as a blank, and of several the first is dropped.
-/

namespace SoapWrap.Yaml

structure Gap where
  /-- The blanks, last first, as long as there is no break. -/
  blanks : List Char := []
  broken : Bool := false
  firstBreak : Option Char := none
  moreBreaks : List Char := []

namespace Gap

def addBreak (g : Gap) (c : Char) : Gap :=
  if g.broken then { g with moreBreaks := c :: g.moreBreaks }
  else { broken := true, firstBreak := some c }

def addBlank (g : Gap) (c : Char) : Gap :=
  if g.broken then g else { g with blanks := c :: g.blanks }

def textRev (g : Gap) : List Char :=
  if g.broken then
    match g.firstBreak with
    | some '\n' => if g.moreBreaks.isEmpty then [' '] else g.moreBreaks
    | some c => g.moreBreaks ++ [c]
    | none => g.moreBreaks
  else g.blanks

end Gap

def readGap (indent : Nat) (g : Gap) : (fuel : Nat) → Cursor → Option (Gap × Cursor)
  | 0, c => some (g, c)
  | fuel + 1, c =>
    match c.rest with
    | [] => some (g, c)
    | ch :: _ =>
      if isBlank ch then
        if g.broken && c.column < indent && ch == '\t' then none
        else readGap indent (g.addBlank ch) fuel c.skip
      else if isBreak ch then readGap indent (g.addBreak c.breakChar) fuel c.skipBreak
      else some (g, c)

def isFlowIndicator (c : Char) : Bool :=
  c == ',' || c == '[' || c == ']' || c == '{' || c == '}'

def readPlainWord (flow : Bool) (out : List Char) : (fuel : Nat) → Cursor →
    Option (List Char × Cursor)
  | 0, c => some (out, c)
  | fuel + 1, c =>
    match c.rest with
    | [] => some (out, c)
    | ch :: rest =>
      if atBlank c.rest then some (out, c)
      else if flow && ch == ':' && (rest.head?.any fun d => isFlowIndicator d || d == '?') then none
      else if (ch == ':' && atBlank rest) || (flow && isFlowIndicator ch) then some (out, c)
      else readPlainWord flow (ch :: out) fuel c.skip

/-- Reads a plain scalar; the answer tells whether line breaks were read behind it. -/
def readPlain (flow : Bool) (indent : Nat) (out : List Char) (gap : Gap) : (fuel : Nat) → Cursor →
    Option (List Char × Bool × Cursor)
  | 0, c => some (out.reverse, gap.broken, c)
  | fuel + 1, c =>
    if c.atDocumentMarker || c.rest.head? == some '#' then some (out.reverse, gap.broken, c)
    else
      match readPlainWord flow [] c.rest.length c with
      | none => none
      | some (word, next) =>
        let (out, gap) := if word.isEmpty then (out, gap) else (word ++ gap.textRev ++ out, {})
        if !(atBlank next.rest && !next.rest.isEmpty) then some (out.reverse, gap.broken, next)
        else
          match readGap indent gap next.rest.length next with
          | none => none
          | some (gap, next) =>
            if !flow && next.column < indent then some (out.reverse, gap.broken, next)
            else readPlain flow indent out gap fuel next

def hexPoint (digits : List Char) : Option Char := do
  let values ← digits.mapM Text.hexValue
  let n := values.foldl (fun n d => n * 16 + d) 0
  if (0xD800 ≤ n ∧ n ≤ 0xDFFF) ∨ n > 0x10FFFF then none else some (Char.ofNat n)

def readEscape : List Char → Option (Char × Nat)
  | [] => none
  | e :: rest =>
    let hex (n : Nat) : Option (Char × Nat) :=
      if rest.length < n then none else (hexPoint (rest.take n)).map (·, n + 1)
    match e with
    | '0' => some ('\x00', 1)
    | 'a' => some ('\x07', 1)
    | 'b' => some ('\x08', 1)
    | 't' => some ('\t', 1)
    | '\t' => some ('\t', 1)
    | 'n' => some ('\n', 1)
    | 'v' => some ('\x0b', 1)
    | 'f' => some ('\x0c', 1)
    | 'r' => some ('\r', 1)
    | 'e' => some ('\x1b', 1)
    | ' ' => some (' ', 1)
    | '"' => some ('"', 1)
    | '/' => some ('/', 1)
    | '\\' => some ('\\', 1)
    | 'N' => some ('\u0085', 1)
    | '_' => some ('\u00a0', 1)
    | 'L' => some ('\u2028', 1)
    | 'P' => some ('\u2029', 1)
    | 'x' => hex 2
    | 'u' => hex 4
    | 'U' => hex 8
    | _ => none

def readQuotedWord (single : Bool) (out : List Char) : (fuel : Nat) → Cursor →
    Option (List Char × Bool × Cursor)
  | 0, _ => none
  | fuel + 1, c =>
    match c.rest with
    | [] => some (out, false, c)
    | ch :: rest =>
      if atBlank c.rest then some (out, false, c)
      else if single then
        if ch == '\'' then
          if rest.head? == some '\'' then readQuotedWord single ('\'' :: out) fuel (c.skipMany 2)
          else some (out, false, c)
        else readQuotedWord single (ch :: out) fuel c.skip
      else if ch == '"' then some (out, false, c)
      else if ch == '\\' then
        if atBreak rest then some (out, true, c.skip.skipBreak)
        else match readEscape rest with
          | none => none
          | some (e, n) => readQuotedWord single (e :: out) fuel (c.skipMany (n + 1))
      else readQuotedWord single (ch :: out) fuel c.skip

def readQuoted (single : Bool) (out : List Char) : (fuel : Nat) → Cursor →
    Option (List Char × Cursor)
  | 0, _ => none
  | fuel + 1, c =>
    if c.atDocumentMarker || c.rest.isEmpty then none
    else
      match readQuotedWord single [] (c.rest.length + 1) c with
      | none => none
      | some (word, escaped, next) =>
        let out := word ++ out
        if next.rest.head? == some (if single then '\'' else '"') then some (out.reverse, next.skip)
        else
          match readGap 0 { broken := escaped } next.rest.length next with
          | none => none
          | some (gap, next) => readQuoted single (gap.textRev ++ out) fuel next

end SoapWrap.Yaml
