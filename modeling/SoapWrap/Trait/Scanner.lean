import SoapWrap.Text.Shown
import SoapWrap.Trait.TokenTree

/-!
From text to token trees. Comments are skipped, except that a documentation comment reads as the
attribute that it stands for.
-/

namespace SoapWrap.Trait

def quoteChars : List Char → List Char
  | [] => []
  | c :: rest =>
    (if c = '\x00' then
      if rest.head?.any fun d => '0' ≤ d ∧ d ≤ '7' then ['\\', 'x', '0', '0'] else ['\\', '0']
    else Text.showChar c) ++ quoteChars rest

def quote (s : String) : String := .ofList ('"' :: (quoteChars s.toList ++ ['"']))

namespace Scanner

/-- Blanks, and the two marks of writing direction. -/
def isBlank (c : Char) : Bool := Text.isBlank c || c == '\u200e' || c == '\u200f'

def splitLine : List Char → List Char × List Char
  | [] => ([], [])
  | '\n' :: rest => ([], '\n' :: rest)
  | '\r' :: '\n' :: rest => ([], '\n' :: rest)
  | c :: rest =>
    let (line, rest) := splitLine rest
    (c :: line, rest)

def splitBlock (depth : Nat) : List Char → Option (List Char × List Char)
  | [] => none
  | '/' :: '*' :: rest =>
    (splitBlock (depth + 1) rest).map fun (s, rest) => ('/' :: '*' :: s, rest)
  | '*' :: '/' :: rest =>
    match depth with
    | 0 => some ([], rest)
    | depth + 1 => (splitBlock depth rest).map fun (s, rest) => ('*' :: '/' :: s, rest)
  | c :: rest => (splitBlock depth rest).map fun (s, rest) => (c :: s, rest)

def dropComment : List Char → Option (List Char)
  | '/' :: '/' :: rest =>
    match rest with
    | '/' :: '/' :: _ => some (splitLine rest).2
    | '/' :: _ => none
    | '!' :: _ => none
    | _ => some (splitLine rest).2
  | '/' :: '*' :: rest =>
    match rest with
    | '*' :: '/' :: rest => some rest
    | '*' :: '*' :: _ => (splitBlock 0 rest).map (·.2)
    | '*' :: _ => none
    | '!' :: _ => none
    | _ => (splitBlock 0 rest).map (·.2)
  | _ => none

def skipBlanks : (fuel : Nat) → List Char → List Char
  | 0, cs => cs
  | fuel + 1, cs =>
    match cs with
    | [] => []
    | c :: rest =>
      if isBlank c then skipBlanks fuel rest
      else match dropComment cs with
        | some rest => skipBlanks fuel rest
        | none => cs

def hasWholeBreaks : List Char → Bool
  | [] => true
  | c :: rest => (c != '\r' || rest.head? == some '\n') && hasWholeBreaks rest

def readDocumentation : List Char → Option (Bool × List Char × List Char)
  | '/' :: '/' :: '!' :: rest => some (true, splitLine rest)
  | '/' :: '/' :: '/' :: rest =>
    if rest.head? = some '/' then none else some (false, splitLine rest)
  | '/' :: '*' :: '!' :: rest => (splitBlock 0 rest).map (true, ·)
  | '/' :: '*' :: '*' :: rest =>
    if rest.head? = some '*' then none else (splitBlock 0 rest).map (false, ·)
  | _ => none

def documentation (inner : Bool) (s : String) : List TokenTree :=
  .punct '#' false :: ((if inner then [.punct '!' false] else []) ++
    [.group .bracket [.ident "doc", .punct '=' false, .literal (quote s) (.text s)]])

def isPunct (c : Char) : Bool := "~!@#$%^&*-=+|;:,<.>/?'".toList.contains c

def atPunct : List Char → Bool
  | '/' :: '/' :: _ => false
  | '/' :: '*' :: _ => false
  | c :: _ => isPunct c
  | [] => false

def neverRaw : List String := ["_", "super", "self", "Self", "crate"]

def readWord (cs : List Char) : Option (String × List Char) :=
  let plain (cs : List Char) : Option (String × List Char) :=
    (dropWord cs).map fun rest => (.ofList (cs.take (cs.length - rest.length)), rest)
  match cs with
  | 'r' :: '#' :: rest =>
    (plain rest).bind fun (name, rest) =>
      if neverRaw.contains name then none else some ("r#" ++ name, rest)
  | cs => plain cs

def literalOpenings : List String :=
  ["r\"", "r#\"", "r##", "b\"", "b'", "br\"", "br#", "c\"", "cr\"", "cr#"]

def readIdent (cs : List Char) : Option (String × List Char) :=
  if literalOpenings.any (·.toList.isPrefixOf cs) then none else readWord cs

def readPunct (c : Char) (rest : List Char) : Option (TokenTree × List Char) :=
  if !atPunct (c :: rest) then none
  else if c = '\'' then
    match readWord rest with
    | none => none
    | some (_, behind) =>
      if behind.head? = some '\'' ∨
          (behind.head? = some '#' ∧ ¬ ['r', '#'].isPrefixOf rest) then none
      else some (.punct c true, rest)
  else some (.punct c (atPunct rest), rest)

def readLeaf (cs : List Char) : Option (TokenTree × List Char) :=
  match Literal.scan cs with
  | some (value, rest) => some (.literal (.ofList (cs.take (cs.length - rest.length))) value, rest)
  | none =>
    match cs with
    | [] => none
    | c :: rest =>
      (readPunct c rest).or ((readIdent cs).map fun (name, rest) => (.ident name, rest))

/-- Scans to the end; `outer` holds what precedes each open group, last token first. -/
def run (outer : List (Delimiter × List TokenTree)) (done : List TokenTree) :
    (fuel : Nat) → List Char → Option (List TokenTree)
  | 0, _ => none
  | fuel + 1, cs =>
    let cs := skipBlanks (cs.length + 1) cs
    match readDocumentation cs with
    | some (inner, s, rest) =>
      if hasWholeBreaks s then
        run outer ((documentation inner (.ofList s)).reverse ++ done) fuel rest
      else none
    | none =>
      match cs with
      | [] => if outer.isEmpty then some done.reverse else none
      | c :: rest =>
        match Delimiter.ofOpening? c, Delimiter.ofClosing? c with
        | some d, _ => run ((d, done) :: outer) [] fuel rest
        | none, some d =>
          match outer with
          | (e, before) :: outer =>
            if d = e then run outer (.group d done.reverse :: before) fuel rest else none
          | [] => none
        | none, none =>
          match readLeaf cs with
          | some (t, rest) => run outer (t :: done) fuel rest
          | none => none

end Scanner

def tokenTrees (s : String) : Option (List TokenTree) :=
  let cs := match s.toList with
    | '\uFEFF' :: rest => rest
    | cs => cs
  Scanner.run [] [] (cs.length + 1) cs

end SoapWrap.Trait
