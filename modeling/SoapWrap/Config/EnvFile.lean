import SoapWrap.Text.Class

/-!
Files of environment variables: one `KEY=value` a line, where quoted values may run over several
lines. The first malformed line ends the reading, and a variable that is set stays as it is.
-/

namespace SoapWrap

abbrev Environment := List (String × String)

def Environment.setNew (env : Environment) (key value : String) : Environment :=
  if (env.lookup key).isSome then env else env ++ [(key, value)]

namespace EnvFile

inductive Place where
  | bare
  /-- Behind a blank, where a comment may begin. -/
  | gap
  | escape
  | single
  | singleEscape
  | double
  | doubleEscape
  deriving DecidableEq

def Place.unquoted (c : Char) : Place :=
  if c = '\\' then escape
  else if c = '"' then double
  else if c = '\'' then single
  else bare

def Place.next (p : Place) (c : Char) : Place :=
  match p with
  | bare => if Text.isBlank c ∧ c ≠ '\n' ∧ c ≠ '\r' then gap else Place.unquoted c
  | gap => Place.unquoted c
  | escape => bare
  | single => if c = '\\' then singleEscape else if c = '\'' then bare else single
  | singleEscape => single
  | double => if c = '\\' then doubleEscape else if c = '"' then bare else double
  | doubleEscape => double

/-- The place behind a physical line, or none where a comment begins; and what precedes that. -/
def scanLine (p : Place) : List Char → Option Place × List Char
  | [] => (some p, [])
  | c :: rest =>
    if p = .gap ∧ c = '#' then (none, [])
    else
      let (last, kept) := scanLine (p.next c) rest
      (last, c :: kept)

def physicalLines : List Char → List (List Char)
  | [] => []
  | c :: rest =>
    if c = '\n' then [c] :: physicalLines rest
    else match physicalLines rest with
      | [] => [[c]]
      | line :: lines => (c :: line) :: lines

def dropBlanks (cs : List Char) : List Char := cs.dropWhile Text.isBlank

def trimEnd (cs : List Char) : List Char := (dropBlanks cs.reverse).reverse

def isComment (line : List Char) : Bool :=
  match dropBlanks line with
  | c :: _ => c == '#'
  | [] => false

def logicalLines (p : Place) (before : List Char) : List (List Char) → List (Option (List Char))
  | [] => if p = .bare then [] else [none]
  | line :: rest =>
    if isComment (before ++ line) then some [] :: logicalLines .bare [] rest
    else match scanLine p line with
      | (none, kept) => some (before ++ kept) :: logicalLines .bare [] rest
      | (some .bare, _) => some (before ++ line) :: logicalLines .bare [] rest
      | (some p, _) => logicalLines p (before ++ line) rest

/-- Where in a value a character stands; `quoted` is about double quotes. -/
inductive Mode where
  | text (quoted : Bool)
  | escape (quoted : Bool)
  | single
  /-- In the name of a variable, which is given last character first. -/
  | variable (quoted braced : Bool) (name : List Char)
  | ended

def unescape? (c : Char) : Option Char :=
  if c = 'n' then some '\n'
  else if c = '\\' ∨ c = '\'' ∨ c = '"' ∨ c = '$' ∨ c = ' ' then some c
  else none

def readValue (env : Environment) : Mode → List Char → Option (List Char)
  | .text quoted, [] => if quoted then none else some []
  | .escape quoted, [] => if quoted then none else some []
  | .single, [] => none
  | .variable quoted braced name, [] =>
    if quoted || braced then none else some (lookup name)
  | .ended, [] => some []
  | .ended, c :: rest =>
    if c = ' ' ∨ c = '\t' then readValue env .ended rest
    else if c = '#' then some []
    else none
  | .escape quoted, c :: rest =>
    match unescape? c with
    | some d => (readValue env (.text quoted) rest).map (d :: ·)
    | none => none
  | .single, c :: rest =>
    if c = '\'' then readValue env (.text false) rest
    else (readValue env .single rest).map (c :: ·)
  | .variable quoted false name, c :: rest =>
    if Text.isAlnum c then readValue env (.variable quoted false (c :: name)) rest
    else if c = '{' ∧ name = [] then readValue env (.variable quoted true []) rest
    else if c = '$' then
      (readValue env (.variable quoted false []) rest).map (lookup name ++ ·)
    else (readValue env (.text quoted) rest).map (lookup name ++ c :: ·)
  | .variable quoted true name, c :: rest =>
    if c = '}' then (readValue env (.text quoted) rest).map (lookup name ++ ·)
    else readValue env (.variable quoted true (c :: name)) rest
  | .text quoted, c :: rest =>
    if c = '$' then readValue env (.variable quoted false []) rest
    else if c = '\\' then readValue env (.escape quoted) rest
    else if c = '"' then readValue env (.text !quoted) rest
    else if quoted then (readValue env (.text true) rest).map (c :: ·)
    else if c = '\'' then readValue env .single rest
    else if c = ' ' ∨ c = '\t' then readValue env .ended rest
    else (readValue env (.text false) rest).map (c :: ·)
where
  lookup (name : List Char) : List Char :=
    ((env.lookup (.ofList name.reverse)).getD "").toList

def isKeyStart (c : Char) : Bool := Text.isAsciiAlpha c || c == '_'

def isKeyPart (c : Char) : Bool := Text.isAsciiAlnum c || c == '_' || c == '.'

def readKey? (cs : List Char) : Option (String × List Char) :=
  match cs with
  | c :: _ =>
    if isKeyStart c then some (.ofList (cs.takeWhile isKeyPart), dropBlanks (cs.dropWhile isKeyPart))
    else none
  | [] => none

def readAssigned? (cs : List Char) : Option (String × List Char) :=
  match readKey? cs with
  | none => none
  | some (key, '=' :: rest) => some (key, rest)
  | some (key, rest) =>
    if key = "export" then
      match readKey? rest with
      | some (key, '=' :: rest) => some (key, rest)
      | _ => none
    else none

def readLine (env : Environment) (line : List Char) : Option Environment :=
  let line := dropBlanks (trimEnd line)
  if line = [] ∨ isComment line then some env
  else match readAssigned? line with
    | none => none
    | some (key, rest) =>
      let rest := dropBlanks rest
      if isComment rest then some (env.setNew key "")
      else (readValue env (.text false) rest).map fun v => env.setNew key (.ofList v)

def readLines (env : Environment) : List (Option (List Char)) → Environment
  | [] => env
  | none :: _ => env
  | some line :: rest =>
    match readLine env line with
    | none => env
    | some env => readLines env rest

def withoutMark : List Char → List Char
  | '\uFEFF' :: rest => rest
  | cs => cs

def addTo (env : Environment) (text : String) : Environment :=
  readLines env (logicalLines .bare [] (physicalLines (withoutMark text.toList)))

end EnvFile

end SoapWrap
