import SoapWrap.Trait.TokenTree

namespace SoapWrap.Trait

abbrev Reader := StateT (List TokenTree) Option

namespace Reader

abbrev Words := List String

/-- Whether the tokens begin with a symbol; only its last character may stand apart from the next. -/
def beginsWith : List Char → List TokenTree → Bool
  | [], _ => true
  | [c], .punct d _ :: _ => c == d
  | c :: cs, .punct d joint :: rest => c == d && joint && beginsWith cs rest
  | _ :: _, _ => false

def atSymbol (s : String) (ts : List TokenTree) : Bool := beginsWith s.toList ts

def atWord (name : String) : List TokenTree → Bool
  | .ident n :: _ => n == name
  | _ => false

def atGroup (d : Delimiter) : List TokenTree → Bool
  | .group e _ :: _ => d == e
  | _ => false

def keywords : List String := [
  "_", "abstract", "as", "async", "await", "become", "box", "break", "const", "continue", "crate",
  "do", "dyn", "else", "enum", "extern", "false", "final", "fn", "for", "if", "impl", "in", "let",
  "loop", "macro", "match", "mod", "move", "mut", "override", "priv", "pub", "ref", "return",
  "Self", "self", "static", "struct", "super", "trait", "true", "try", "type", "typeof", "unsafe",
  "unsized", "use", "virtual", "where", "while", "yield"]

def isName (s : String) : Bool := !keywords.contains s

def atAnyIdent : List TokenTree → Bool
  | .ident _ :: _ => true
  | _ => false

def atName : List TokenTree → Bool
  | .ident n :: _ => isName n
  | _ => false

def atPathKeyword (ts : List TokenTree) : Bool :=
  atWord "super" ts || atWord "self" ts || atWord "Self" ts || atWord "crate" ts

def atLifetime : List TokenTree → Bool
  | .punct '\'' true :: .ident _ :: _ => true
  | _ => false

def literal? : List TokenTree → Option (Literal × String × List TokenTree)
  | .literal lexeme value :: rest => some (value, lexeme, rest)
  | .punct '-' _ :: .literal lexeme value :: rest =>
    value.negate?.map (·, "-" ++ lexeme, rest)
  | _ => none

def atTruth (ts : List TokenTree) : Bool := atWord "true" ts || atWord "false" ts

def atLiteral (ts : List TokenTree) : Bool := atTruth ts || (literal? ts).isSome

def next (p : List TokenTree → Bool) : Reader Bool := fun ts => some (p ts, ts)

def guard (p : List TokenTree → Bool) : Reader Unit := fun ts => if p ts then some ((), ts) else none

def symbol (s : String) : Reader Words := fun ts =>
  if atSymbol s ts then some (s.toList.map (·.toString), ts.drop s.length) else none

def word (name : String) : Reader Words := fun ts =>
  if atWord name ts then some ([name], ts.drop 1) else none

def anyIdent : Reader String
  | .ident n :: rest => some (n, rest)
  | _ => none

def name : Reader String
  | .ident n :: rest => if isName n then some (n, rest) else none
  | _ => none

def lifetime : Reader Words
  | .punct '\'' true :: .ident n :: rest => some (["'", n], rest)
  | _ => none

def within (d : Delimiter) (r : Reader α) : Reader α
  | .group e content :: rest =>
    if d = e then
      match r content with
      | some (a, []) => some (a, rest)
      | _ => none
    else none
  | _ => none

def group (d : Delimiter) : Reader Words
  | .group e content :: rest =>
    if d = e then some (d.surround (TokenTree.allWords content), rest) else none
  | _ => none

def anyGroup : Reader (Delimiter × List TokenTree)
  | .group d content :: rest => some ((d, content), rest)
  | _ => none

def verbatim (r : Reader α) : Reader Words := fun ts =>
  (r ts).map fun (_, rest) => (TokenTree.allWords (ts.take (ts.length - rest.length)), rest)

def when (p : List TokenTree → Bool) (r : Reader Words) : Reader Words := do
  if ← next p then r else return []

def symbol? (s : String) : Reader Words := when (atSymbol s) (symbol s)

def word? (name : String) : Reader Words := when (atWord name) (word name)

def attempt (r : Reader α) : Reader (Option α) := fun ts =>
  match r ts with
  | some (a, rest) => some (some a, rest)
  | none => some (none, ts)

def repeated (p : List TokenTree → Bool) (r : Reader α) : (fuel : Nat) → Reader (List α)
  | 0 => failure
  | fuel + 1 => do
    if ← next p then
      let a ← r
      return a :: (← repeated p r fuel)
    else return []

def many (p : List TokenTree → Bool) (r : Reader α) : Reader (List α) := fun ts =>
  repeated p r (ts.length + 1) ts

def separatedFrom (stop : List TokenTree → Bool) (separator : String) (r : Reader α) :
    (fuel : Nat) → Reader (List (α × Bool))
  | 0 => failure
  | fuel + 1 => do
    if ← next stop then return []
    let a ← r
    if ← next (atSymbol separator) then
      let _ ← symbol separator
      return (a, true) :: (← separatedFrom stop separator r fuel)
    return [(a, false)]

def separated (stop : List TokenTree → Bool) (separator : String) (r : Reader α) :
    Reader (List (α × Bool)) := fun ts => separatedFrom stop separator r (ts.length + 1) ts

def commaList (r : Reader α) : Reader (List (α × Bool)) := separated (·.isEmpty) "," r

def wordsOf (separator : String) (items : List (Words × Bool)) : Words :=
  items.flatMap fun (words, more) => if more then words ++ [separator] else words

end Reader

end SoapWrap.Trait
