import SoapWrap.Trait.Grammar

/-!
The grammar of expressions and patterns. Only literals and single names are told apart; what stands
in the braces of a block is not looked at.
-/

namespace SoapWrap.Trait

def Value.ofLiteral : Literal → Value
  | .text s => text s
  | .int digits => int digits
  | .float => otherLiteral
  | .other => otherLiteral

namespace Grammar

open Reader

/-- The operators with two operands, a longer one in front of those that it begins with. -/
def operators : List String := [
  "<<=", ">>=", "..=", "&&", "||", "<<", ">>", "==", "<=", "!=", ">=", "+=", "-=", "*=", "/=",
  "%=", "^=", "&=", "|=", "..", "+", "-", "*", "/", "%", "^", "&", "|", "<", ">", "="]

def operator? (ts : List TokenTree) : Option String :=
  if atSymbol "=>" ts then none else operators.find? (atSymbol · ts)

def atOperator (ts : List TokenTree) : Bool := (operator? ts).isSome || atWord "as" ts

def isRange (operator : String) : Bool := operator == ".." || operator == "..="

def endsRange (bare : Bool) (ts : List TokenTree) : Bool :=
  ts.isEmpty || atSymbol "," ts || atSymbol ";" ts || atSymbol "?" ts || atSymbol "=" ts ||
    (atSymbol "." ts && !atSymbol ".." ts) || (bare && atGroup .brace ts)

def skipUntil (p : List TokenTree → Bool) : Reader Unit := do
  let _ ← many (fun ts => !ts.isEmpty && !p ts) fun ts =>
    match ts with
    | _ :: rest => some ((), rest)
    | [] => none
  guard p

def readLiteral : Reader Value := fun ts =>
  match ts with
  | .literal _ value :: rest => some (.ofLiteral value, rest)
  | .ident n :: rest =>
    if n = "true" then some (.bool true, rest)
    else if n = "false" then some (.bool false, rest)
    else none
  | _ => none

def atPlainLiteral (ts : List TokenTree) : Bool := (readLiteral ts).isSome

def block : Reader Unit := do let _ ← group .brace

section Layer

variable (g : Grammar)

def skipExpr (bare : Bool) : Reader Unit := do let _ ← g.expr bare

def pathExpr (bare : Bool) : Reader Value := do
  if ← next (atSymbol "<") then
    let _ ← qualifiedPath g true
    return .path
  let p ← readPath g true
  if p.plain then
    if ← next fun ts => atSymbol "!" ts && !atSymbol "!=" ts then
      let _ ← symbol "!"
      let _ ← anyGroup
      return .other
  if !bare then
    if ← next (atGroup .brace) then
      block
      return .other
  return match p.ident? with
    | some n => .name n
    | none => .path

def condition : Reader Unit := do
  if ← next (atWord "let") then
    skipUntil fun ts => atSymbol "=" ts && !atSymbol "==" ts
    let _ ← symbol "="
  skipExpr g true

def atBlockWord (ts : List TokenTree) : Bool :=
  (atWord "unsafe" ts || atWord "const" ts || atWord "loop" ts || atWord "try" ts ||
    atWord "async" ts) && atGroup .brace (ts.drop 1)

def choiceRest : Reader Unit := do
  block
  if ← next (atWord "else") then
    let _ ← word "else"
    if ← next (atWord "if") then skipExpr g false else block

def closure : Reader Unit := do
  let _ ← word? "static"
  let _ ← word? "async"
  let _ ← word? "move"
  let _ ← symbol "|"
  skipUntil (atSymbol "|")
  let _ ← symbol "|"
  if ← next (atSymbol "->") then
    let _ ← symbol "->"
    let _ ← g.type false
    block
  else skipExpr g false

def atClosure (ts : List TokenTree) : Bool :=
  atSymbol "|" ts || atWord "move" ts || atWord "static" ts ||
    (atWord "async" ts && (atWord "move" (ts.drop 1) || atSymbol "|" (ts.drop 1)))

def atExit (ts : List TokenTree) : Bool :=
  atWord "return" ts || atWord "break" ts || atWord "yield" ts

def arrayContent : Reader Unit := do
  if ← next fun ts => ts.isEmpty then return ()
  skipExpr g false
  if ← next (atSymbol ";") then
    let _ ← symbol ";"
    skipExpr g false
  else
    if ← next (atSymbol ",") then
      let _ ← symbol ","
      let _ ← commaList (skipExpr g false)

def keywordExpr : Reader Unit := do
  if ← next atBlockWord then
    let _ ← anyIdent
    block
  else if ← next atClosure then closure g
  else if ← next (atWord "if") then
    let _ ← word "if"
    condition g
    choiceRest g
  else if ← next (atWord "while") then
    let _ ← word "while"
    condition g
    block
  else if ← next (atWord "match") then
    let _ ← word "match"
    skipExpr g true
    block
  else if ← next (atWord "for") then
    let _ ← word "for"
    skipUntil (atWord "in")
    let _ ← word "in"
    skipExpr g true
    block
  else if ← next (atWord "_") then
    let _ ← word "_"
  else if ← next (atWord "continue") then
    let _ ← word "continue"
    let _ ← when atLifetime lifetime
  else
    guard atExit
    let _ ← anyIdent
    let _ ← when atLifetime lifetime
    if ← next fun ts => !endsRange false ts then skipExpr g false

def atom (bare : Bool) : Reader Value := do
  if ← next atPlainLiteral then readLiteral
  else if ← next (atGroup .paren) then
    let _ ← within .paren (commaList (skipExpr g false))
    return .other
  else if ← next (atGroup .bracket) then
    within .bracket (arrayContent g)
    return .other
  else if ← next (atGroup .brace) then
    block
    return .other
  else if ← next fun ts => startsPath ts && !atBlockWord ts then pathExpr g bare
  else
    keywordExpr g
    return .other

def atTrailer (ts : List TokenTree) : Bool :=
  (atSymbol "." ts && !atSymbol ".." ts) || atGroup .paren ts || atGroup .bracket ts ||
    atSymbol "?" ts

def isMember : List TokenTree → Bool
  | .ident _ :: _ => true
  | .literal _ (.int _) :: _ => true
  | .literal _ .float :: _ => true
  | _ => false

def trailer : Reader Unit := do
  if ← next (atSymbol "?") then
    let _ ← symbol "?"
  else if ← next (atGroup .paren) then
    let _ ← within .paren (commaList (skipExpr g false))
  else if ← next (atGroup .bracket) then within .bracket (skipExpr g false)
  else
    let _ ← symbol "."
    guard isMember
    fun ts => some ((), ts.drop 1)
    if ← next (atDouble (atSymbol "<")) then
      let _ ← readAngleArgs g

def operand (bare : Bool) : Reader Value := do
  if ← next (atSymbol "&") then
    let _ ← symbol "&"
    let _ ← word? "mut"
    skipExpr g bare
    return .other
  if ← next fun ts => atSymbol "*" ts || atSymbol "!" ts || atSymbol "-" ts then
    fun ts => some ((), ts.drop 1)
    skipExpr g bare
    return .other
  if ← next (atSymbol "..") then
    let _ ← if ← next (atSymbol "..=") then symbol "..=" else symbol ".."
    if ← next fun ts => !endsRange bare ts then skipExpr g bare
    return .other
  let value ← atom g bare
  let rest ← many atTrailer (trailer g)
  return if rest.isEmpty then value else .other

def operation (bare : Bool) : Reader Unit := do
  if ← next (atWord "as") then
    let _ ← word "as"
    let _ ← g.type false
  else
    let op : String ← fun ts => (operator? ts).map (·, ts)
    let _ ← symbol op
    if ← next fun ts => !(isRange op && endsRange bare ts) then
      let _ ← operand g bare

def readExpr (bare : Bool) : Reader Value := do
  let first ← operand g bare
  let rest ← many atOperator (operation g bare)
  return if rest.isEmpty then first else .other

def alternatives : Reader Unit := do
  let _ ← symbol? "|"
  g.pattern
  let _ ← many (atSymbol "|") (do
    let _ ← symbol "|"
    g.pattern)

def startsPathPattern (ts : List TokenTree) : Bool :=
  let behind := ts.drop 1
  (atName ts && (atSymbol "::" behind || atSymbol "!" behind || atGroup .brace behind ||
    atGroup .paren behind || atSymbol ".." behind)) ||
    (atWord "self" ts && atSymbol "::" behind) || atSymbol "::" ts || atSymbol "<" ts ||
    atWord "Self" ts || atWord "super" ts || atWord "crate" ts

def rangeEnd : Reader Unit := do
  if ← next (atSymbol "..") then
    let _ ← if ← next (atSymbol "..=") then symbol "..="
      else if ← next (atSymbol "...") then symbol "..." else symbol ".."
    if ← next fun ts => atLiteral ts || startsPath ts then
      if ← next startsPath then
        let _ ← pathExpr g true
      else
        let _ ← symbol? "-"
        let _ ← readLiteral

def pathPattern : Reader Unit := do
  if ← next (atSymbol "<") then
    let _ ← qualifiedPath g true
  else
    let p ← readPath g true
    if p.plain then
      if ← next fun ts => atSymbol "!" ts && !atSymbol "!=" ts then
        let _ ← symbol "!"
        let _ ← anyGroup
        return ()
  if ← next (atGroup .brace) then block
  else if ← next (atGroup .paren) then
    let _ ← within .paren (commaList (alternatives g))
  else rangeEnd g

def binding : Reader (Words × String) := do
  let byRef ← word? "ref"
  let mutable ← word? "mut"
  let n ← if ← next (atWord "self") then anyIdent else name
  return (byRef ++ mutable ++ [n], n)

def atBinding (ts : List TokenTree) : Bool :=
  atWord "ref" ts || atWord "mut" ts || atWord "self" ts || atName ts

def readPattern : Reader Unit := do
  if ← next startsPathPattern then pathPattern g
  else if ← next (atWord "_") then
    let _ ← word "_"
  else if ← next fun ts => atLiteral ts || atSymbol "-" ts then
    let _ ← symbol? "-"
    let _ ← readLiteral
    rangeEnd g
  else if ← next atBinding then
    let _ ← binding
    if ← next (atSymbol "@") then
      let _ ← symbol "@"
      g.pattern
  else if ← next (atSymbol "&") then
    let _ ← symbol "&"
    let _ ← word? "mut"
    g.pattern
  else if ← next (atGroup .paren) then
    let _ ← within .paren (commaList (alternatives g))
  else if ← next (atGroup .bracket) then
    let _ ← within .bracket (commaList (alternatives g))
  else
    guard (atSymbol "..")
    rangeEnd g

end Layer

def ofDepth : Nat → Grammar
  | 0 => ⟨fun _ => failure, fun _ => failure, failure⟩
  | n + 1 =>
    let g := ofDepth n
    ⟨readType g, readExpr g, readPattern g⟩

def parse (r : Grammar → Reader α) (ts : List TokenTree) : Option α :=
  match r (ofDepth (TokenTree.sizeAll ts + 1)) ts with
  | some (a, []) => some a
  | _ => none

end Grammar

end SoapWrap.Trait
