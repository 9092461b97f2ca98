import SoapWrap.Trait.Reader
import SoapWrap.Trait.SigType

/-!
The grammar of paths, bounds and types. Types, expressions and patterns contain each other, so the
reader of one layer takes the readers of the layer inside as a parameter.
-/

namespace SoapWrap.Trait

inductive Value where
  | text (s : String)
  | bool (b : Bool)
  | int (digits : String)
  | otherLiteral
  | name (s : String)
  | path
  | other
  deriving DecidableEq

structure Grammar where
  /-- Reads a type, with further bounds behind `+` if `plus` is set. -/
  type : (plus : Bool) → Reader SigType
  /-- Reads an expression, no record in braces if `bare` is set. -/
  expr : (bare : Bool) → Reader Value
  pattern : Reader Unit

namespace Grammar

open Reader

structure Path where
  words : Words
  absolute : Bool
  name : String
  args : List SigType
  single : Bool
  plain : Bool

def Path.ident? (p : Path) : Option String :=
  if p.single && p.plain && !p.absolute then some p.name else none

structure Segment where
  words : Words
  name : String
  args : List SigType
  plain : Bool

structure Arg where
  words : Words
  isLifetime : Bool := false
  type : Option SigType := none

/-- Lifetimes are written first, and a comma is added where they end without one. -/
def lifetimesFirst (isLifetime : α → Bool) (words : α → Words) (items : List (α × Bool)) : Words :=
  let write (items : List (α × Bool)) := wordsOf "," (items.map fun (a, more) => (words a, more))
  let (lifetimes, others) := items.partition fun (a, _) => isLifetime a
  write lifetimes ++
    (if others.isEmpty || lifetimes.getLast?.all (·.2) then [] else [","]) ++ write others

def atDouble (p : List TokenTree → Bool) (ts : List TokenTree) : Bool :=
  atSymbol "::" ts && p (ts.drop 2)

def lifetimes (stop : List TokenTree → Bool) : Reader Words :=
  return wordsOf "+" (← separated stop "+" lifetime)

def lifetimeParam : Reader Words := do
  let name ← lifetime
  if ← next (atSymbol ":") then
    let _ ← symbol ":"
    let bounds ← lifetimes fun ts => ts.isEmpty || atSymbol "," ts || atSymbol ">" ts
    return name ++ (if bounds.isEmpty then [] else ":" :: bounds)
  return name

def binder : Reader Words := do
  let head ← word "for"
  let _ ← symbol "<"
  let params ← separated (atSymbol ">") "," lifetimeParam
  let _ ← symbol ">"
  return head ++ "<" :: (wordsOf "," params ++ [">"])

def closeAngles (depth : Nat) : List TokenTree → Option (List TokenTree)
  | .punct '-' true :: .punct '>' _ :: rest => closeAngles depth rest
  | .punct '<' _ :: rest => closeAngles (depth + 1) rest
  | .punct '>' _ :: rest =>
    match depth with
    | 0 => some rest
    | depth + 1 => closeAngles depth rest
  | _ :: rest => closeAngles depth rest
  | [] => none

def startsAssociated : List TokenTree → Bool
  | .ident _ :: rest =>
    let behind :=
      if atSymbol "<" rest then closeAngles 0 (rest.drop 1)
      else if atDouble (atSymbol "<") rest then closeAngles 0 (rest.drop 3)
      else some rest
    behind.any fun ts => atSymbol "=" ts || (atSymbol ":" ts && !atSymbol "::" ts)
  | _ => false

def skippedAttribute : Reader Words := do
  let head ← symbol "#"
  return head ++ (← group .bracket)

def skippedAttributes : Reader Words := return (← many (atSymbol "#") skippedAttribute).flatten

section Layer

variable (g : Grammar)

def constant : Reader Words := do
  if ← next (atGroup .brace) then group .brace
  else if ← next atTruth then return [← anyIdent]
  else fun ts => (literal? ts).map fun (_, lexeme, rest) =>
    (if lexeme.startsWith "-" then ["-", .ofList (lexeme.toList.drop 1)] else [lexeme], rest)

def atConstant (ts : List TokenTree) : Bool := atGroup .brace ts || atLiteral ts

def typeWords (plus : Bool) : Reader Words := return (← g.type plus).words

def arrow : Reader Words := do
  if ← next (atSymbol "->") then
    let head ← symbol "->"
    return head ++ (← typeWords g false)
  else return []

mutual
def segment (inExpr : Bool) : (fuel : Nat) → Reader Segment
  | 0 => failure
  | fuel + 1 => do
    if ← next fun ts => atWord "super" ts || atWord "self" ts || atWord "crate" ts ||
        atWord "try" ts then
      let n ← anyIdent
      return ⟨[n], n, [], true⟩
    let n ← if ← next (atWord "Self") then anyIdent else name
    let hasArgs ← next fun ts =>
      (!inExpr && atSymbol "<" ts && !atSymbol "<=" ts && !atSymbol "<<=" ts) ||
        atDouble (atSymbol "<") ts
    if hasArgs then
      let (words, args) ← angleArgs fuel
      return ⟨n :: words, n, args, false⟩
    else return ⟨[n], n, [], true⟩
def angleArgs : (fuel : Nat) → Reader (Words × List SigType)
  | 0 => failure
  | fuel + 1 => do
    let colons ← symbol? "::"
    let _ ← symbol "<"
    let items ← separated (atSymbol ">") "," (arg fuel)
    let _ ← symbol ">"
    return (colons ++ "<" :: (lifetimesFirst Arg.isLifetime Arg.words items ++ [">"]),
      items.filterMap (·.1.type))
def arg : (fuel : Nat) → Reader Arg
  | 0 => failure
  | fuel + 1 => do
    if ← next fun ts => atLifetime ts && !atSymbol "+" (ts.drop 2) then
      return { words := ← lifetime, isLifetime := true }
    if ← next atConstant then return { words := ← constant }
    if ← next startsAssociated then return { words := ← associated fuel }
    let t ← g.type true
    return { words := t.words, type := some t }
def associated : (fuel : Nat) → Reader Words
  | 0 => failure
  | fuel + 1 => do
    let s ← segment false fuel
    if ← next (atSymbol "=") then
      let _ ← symbol "="
      let value ← if ← next atConstant then constant else typeWords g true
      return s.words ++ "=" :: value
    guard fun ts => atSymbol ":" ts && !atSymbol "::" ts
    let _ ← symbol ":"
    let bounds ← separated (fun ts => atSymbol "," ts || atSymbol ">" ts) "+" (bound fuel)
    return s.words ++ ":" :: wordsOf "+" (bounds.map fun ((words, _), more) => (words, more))
def bound : (fuel : Nat) → Reader (Words × Bool)
  | 0 => failure
  | fuel + 1 => do
    if ← next atLifetime then return (← lifetime, false)
    if ← next (atGroup .paren) then
      return (Delimiter.paren.surround (← within .paren (traitBound fuel)), true)
    return (← traitBound fuel, true)
def traitBound : (fuel : Nat) → Reader Words
  | 0 => failure
  | fuel + 1 => do
    let lifetimes ← when (atWord "for") binder
    let conditional ← symbol? "~"
    let const ← word? "const"
    let maybe ← symbol? "?"
    let head := lifetimes ++ conditional ++ const ++ maybe
    let p ← path false fuel
    if p.args.isEmpty then
      if ← next fun ts => atGroup .paren ts || atDouble (atGroup .paren) ts then
        let _ ← symbol? "::"
        let inputs ← within .paren (commaList (typeWords g true))
        return head ++ p.words ++ Delimiter.paren.surround (wordsOf "," inputs) ++ (← arrow g)
    return head ++ p.words
def path (inExpr : Bool) : (fuel : Nat) → Reader Path
  | 0 => failure
  | fuel + 1 => do
    let colons ← symbol? "::"
    let first ← segment inExpr fuel
    let rest ← many (fun ts => atSymbol "::" ts && !atDouble (atGroup .paren) ts) (do
      let _ ← symbol "::"
      segment inExpr fuel)
    let last := rest.getLast?.getD first
    return {
      words := colons ++ first.words ++ rest.flatMap fun s => ":" :: ":" :: s.words
      absolute := !colons.isEmpty
      name := last.name
      args := last.args
      single := rest.isEmpty
      plain := first.plain && rest.all (·.plain) }
end

/-- How deep segments, arguments, bounds and paths stand inside each other without a type between. -/
def fuelOf (ts : List TokenTree) : Nat := 4 * TokenTree.sizeAll ts + 4

def withFuel (r : Nat → Reader α) : Reader α := fun ts => r (fuelOf ts) ts

def readPath (inExpr : Bool) : Reader Path := withFuel (path g inExpr)

def readSegment (inExpr : Bool) : Reader Segment := withFuel (segment g inExpr)

def readAngleArgs : Reader (Words × List SigType) := withFuel (angleArgs g)

def readBound : Reader (Words × Bool) := withFuel (bound g)

def qualifiedPath (inExpr : Bool) : Reader Path := do
  let _ ← symbol "<"
  let self ← typeWords g true
  let as ← when (atWord "as") (do
    let head ← word "as"
    return head ++ (← readPath g false).words)
  let _ ← symbol ">"
  let _ ← symbol "::"
  let first ← readSegment g inExpr
  let rest ← many (atSymbol "::") (do
    let _ ← symbol "::"
    readSegment g inExpr)
  let last := rest.getLast?.getD first
  return {
    words := "<" :: (self ++ as) ++ ">" :: ":" :: ":" :: first.words ++
      rest.flatMap fun s => ":" :: ":" :: s.words
    absolute := false
    name := last.name
    args := last.args
    single := false
    plain := false }

def startsBound (ts : List TokenTree) : Bool :=
  atAnyIdent ts || atSymbol "::" ts || atSymbol "?" ts || atLifetime ts || atGroup .paren ts

def nextBound : Reader (Words × Bool) := do
  let head ← symbol "+"
  if ← next startsBound then
    let (words, isTrait) ← readBound g
    return (head ++ words, isTrait)
  guard fun ts => !atSymbol "+" ts
  return (head, false)

def moreBounds (plus : Bool) : Reader (List (Words × Bool)) :=
  if plus then many (atSymbol "+") (nextBound g) else pure []

def bounds (plus : Bool) : Reader Words := do
  let first ← readBound g
  let all := first :: (← moreBounds g plus)
  if all.any (·.2) then return all.flatMap (·.1) else failure

def atContent (p : List TokenTree → Bool) : List TokenTree → Bool
  | .group _ content :: _ => p content
  | _ => false

def parenContent : Reader SigType := do
  if ← next fun ts => ts.isEmpty then return .unit
  let first ← g.type true
  if ← next (atSymbol ",") then
    let _ ← symbol ","
    let rest ← commaList (typeWords g true)
    return .other (Delimiter.paren.surround (first.words ++ "," :: wordsOf "," rest))
  return .paren (Delimiter.paren.surround first.words) first

def parenType (plus : Bool) : Reader SigType := do
  if ← next (atContent fun ts => atLifetime ts || atSymbol "?" ts) then
    let first ← within .paren (bounds g true)
    return .other (Delimiter.paren.surround first ++ (← moreBounds g plus).flatMap (·.1))
  let t ← within .paren (parenContent g)
  match t with
  | .paren words inner =>
    if plus && inner.joins then
      if ← next (atSymbol "+") then return .other (words ++ (← moreBounds g true).flatMap (·.1))
    return t
  | _ => return t

def linkage : Reader Words := do
  if ← next (atWord "extern") then
    let head ← word "extern"
    let language : Words ← fun ts => match ts with
      | .literal lexeme (.text _) :: rest => some ([lexeme], rest)
      | _ => some ([], ts)
    return head ++ language
  else return []

def functionInput : Reader Words := do
  let attributes ← skippedAttributes
  let name ← when (fun ts => atAnyIdent ts && atSymbol ":" (ts.drop 1) && !atSymbol "::" (ts.drop 1))
    (do
      let n ← anyIdent
      return n :: (← symbol ":"))
  if ← next (atSymbol "...") then return attributes ++ name ++ (← symbol "...")
  return attributes ++ name ++ (← typeWords g true)

def functionType : Reader Words := do
  let unsafety ← word? "unsafe"
  let link ← linkage
  let head ← word "fn"
  let inputs ← within .paren (commaList (functionInput g))
  return unsafety ++ link ++ head ++ Delimiter.paren.surround (wordsOf "," inputs) ++ (← arrow g)

def pathType (plus : Bool) (lifetimes : Words) : Reader SigType := do
  if ← next (atSymbol "<") then
    let p ← qualifiedPath g false
    return .path p.words true p.name p.args
  let p ← readPath g false
  if p.plain then
    if ← next fun ts => atSymbol "!" ts && !atSymbol "!=" ts then
      let _ ← symbol "!"
      let (d, content) ← anyGroup
      return .other (p.words ++ "!" :: d.surround (TokenTree.allWords content))
  if !lifetimes.isEmpty then
    return .other (lifetimes ++ p.words ++ (← moreBounds g plus).flatMap (·.1))
  if plus then
    if ← next (atSymbol "+") then return .other (p.words ++ (← moreBounds g true).flatMap (·.1))
  return .path p.words false p.name p.args

def startsPath (ts : List TokenTree) : Bool :=
  atName ts || atPathKeyword ts || atSymbol "::" ts || atSymbol "<" ts

def startsFunction (ts : List TokenTree) : Bool :=
  atWord "fn" ts || atWord "unsafe" ts || atWord "extern" ts

def bracketType : Reader Words := do
  let element ← typeWords g true
  if ← next (atSymbol ";") then
    let _ ← symbol ";"
    return element ++ ";" :: (← verbatim (g.expr false))
  else return element

def plainType (plus : Bool) : Reader SigType := do
  if ← next (atGroup .paren) then parenType g plus
  else if ← next startsFunction then return .other (← functionType g)
  else if ← next startsPath then pathType g plus []
  else if ← next (atWord "dyn") then
    let head ← word "dyn"
    let star ← symbol? "*"
    return .other (head ++ star ++ (← bounds g plus))
  else if ← next (atWord "impl") then
    let head ← word "impl"
    return .other (head ++ (← bounds g plus))
  else if ← next (atGroup .bracket) then
    return .other (Delimiter.bracket.surround (← within .bracket (bracketType g)))
  else if ← next (atSymbol "*") then
    let head ← symbol "*"
    let access ← if ← next (atWord "const") then word "const" else word "mut"
    return .other (head ++ access ++ (← typeWords g false))
  else if ← next (atSymbol "&") then
    let head ← symbol "&"
    let lifetime ← when atLifetime lifetime
    let access ← word? "mut"
    let target ← g.type false
    return .reference (head ++ lifetime ++ access ++ target.words) target
  else if ← next (atSymbol "!") then return .other (← symbol "!")
  else if ← next (atWord "_") then return .other (← word "_")
  else if ← next atLifetime then return .other (← bounds g true)
  else failure

def readType (plus : Bool) : Reader SigType := do
  if ← next (atWord "for") then
    let lifetimes ← binder
    if ← next startsFunction then return .other (lifetimes ++ (← functionType g))
    guard fun ts => atName ts || atPathKeyword ts
    pathType g plus lifetimes
  else plainType g plus

end Layer

end Grammar

end SoapWrap.Trait
