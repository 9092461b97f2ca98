import SoapWrap.Trait.Item
import SoapWrap.Trait.Scanner

namespace SoapWrap.Trait.Grammar

open Reader

section Layer

variable (g : Grammar)

def attributesWords : Reader Words := return (← attributes g).flatMap (·.words)

def colonBounds (stop : List TokenTree → Bool) : Reader Words := do
  if ← next (atSymbol ":") then
    let _ ← symbol ":"
    let items ← separated stop "+" (readBound g)
    let words := wordsOf "+" (items.map fun ((words, _), more) => (words, more))
    return if words.isEmpty then [] else ":" :: words
  else return []

def genericParam : Reader Arg := do
  let attributes ← attributesWords g
  if ← next atLifetime then
    return { words := attributes ++ (← lifetimeParam), isLifetime := true }
  if ← next (atWord "const") then
    let head ← word "const"
    let n ← name
    let colon ← symbol ":"
    let type ← typeWords g true
    let default ← when (atSymbol "=") (do return (← symbol "=") ++ (← constant))
    return { words := attributes ++ head ++ n :: colon ++ type ++ default }
  if ← next (atWord "_") then return { words := attributes ++ (← word "_") }
  let n ← name
  let bounds ← colonBounds g fun ts => atSymbol "," ts || atSymbol ">" ts || atSymbol "=" ts
  let default ← when (atSymbol "=") (do return (← symbol "=") ++ (← typeWords g true))
  return { words := attributes ++ n :: bounds ++ default }

def generics : Reader Words := do
  if ← next (atSymbol "<") then
    let _ ← symbol "<"
    let items ← separated (atSymbol ">") "," (genericParam g)
    let _ ← symbol ">"
    if items.isEmpty then return []
    return "<" :: (lifetimesFirst Arg.isLifetime Arg.words items ++ [">"])
  else return []

def endsBounds (ts : List TokenTree) : Bool :=
  ts.isEmpty || atGroup .brace ts || atSymbol "," ts || atSymbol ";" ts ||
    (atSymbol ":" ts && !atSymbol "::" ts) || atSymbol "=" ts

def atLifetimeCondition (ts : List TokenTree) : Bool :=
  atLifetime ts && atSymbol ":" (ts.drop 2)

def whereCondition : Reader Words := do
  if ← next atLifetimeCondition then
    let head ← lifetime
    let colon ← symbol ":"
    return head ++ colon ++ (← lifetimes endsBounds)
  let binder ← when (atWord "for") binder
  let type ← typeWords g true
  let colon ← symbol ":"
  let bounds ← separated endsBounds "+" (readBound g)
  return binder ++ type ++ colon ++
    wordsOf "+" (bounds.map fun ((words, _), more) => (words, more))

def conditions : Reader Words := do
  if ← next (atWord "where") then
    let _ ← word "where"
    let items ← separated endsBounds "," (whereCondition g)
    return if items.isEmpty then [] else "where" :: wordsOf "," items
  else return []

def visibility : Reader Words := do
  if ← next (atWord "pub") then
    let head ← word "pub"
    let scope : Words ← fun ts => match ts with
      | .group .paren [.ident n] :: rest =>
        if n = "crate" ∨ n = "self" ∨ n = "super" then
          some (Delimiter.paren.surround [n], rest)
        else some ([], ts)
      | .group .paren (.ident "in" :: content) :: rest =>
        match namePath content with
        | some (p, []) => some (Delimiter.paren.surround ("in" :: p.words), rest)
        | _ => none
      | _ => some ([], ts)
    return head ++ scope
  else return []

def receiver : Reader Words := do
  let reference ← when (atSymbol "&") (do return (← symbol "&") ++ (← when atLifetime lifetime))
  let access ← word? "mut"
  let self ← word "self"
  let type ← when (fun ts => reference.isEmpty && atSymbol ":" ts)
    (do return (← symbol ":") ++ (← typeWords g true))
  return reference ++ access ++ self ++ type

def argumentPattern : Reader (Words × Option String) := fun ts =>
  let bound :=
    if !startsPathPattern ts && !atLiteral ts && atBinding ts then
      (binding ts).map fun ((_, n), _) => n
    else none
  (verbatim (readPattern g) ts).map fun (words, rest) => ((words, bound), rest)

def typedArgument (attributes : List Attribute) : Reader TypedArgument := do
  if ← next fun ts => atName ts && atSymbol "<" (ts.drop 1) then
    return { attributes, pattern := ["_"], name := none, type := ← g.type true }
  let (pattern, name) ← argumentPattern g
  let _ ← symbol ":"
  return { attributes, pattern, name, type := ← g.type true }

def argument : Reader Argument := do
  let attributes ← attributes g
  match ← attempt (receiver g) with
  | some words => return .receiver (attributes.flatMap (·.words) ++ words)
  | none => return .typed (← typedArgument g attributes)

def atVariadic (ts : List TokenTree) : Bool :=
  match (argumentHead ts) with
  | some rest => atSymbol "..." rest
  | none => false
where
  argumentHead (ts : List TokenTree) : Option (List TokenTree) :=
    match attributesWords g ts with
    | none => none
    | some (_, rest) =>
      if atSymbol "..." rest then some rest
      else match argumentPattern g rest with
        | some (_, .punct ':' _ :: rest) => some rest
        | _ => none

def variadic : Reader Words := do
  let attributes ← attributesWords g
  let pattern ← if ← next (atSymbol "...") then pure [] else
    let (words, _) ← argumentPattern g
    pure (words ++ (← symbol ":"))
  let dots ← symbol "..."
  return attributes ++ pattern ++ dots ++ (← symbol? ",")

/-- Whether a receiver stands nowhere but in front. -/
def hasReceiverFirst (arguments : List (Argument × Bool)) : Bool :=
  (arguments.drop 1).all fun
    | (.receiver _, _) => false
    | (.typed _, _) => true

def arguments : Reader (List (Argument × Bool) × Words) := do
  let items ← separated (fun ts => ts.isEmpty || atVariadic g ts) "," (argument g)
  if hasReceiverFirst items then
    return (items, ← when (fun ts => !ts.isEmpty) (variadic g))
  else failure

def functionHead : Reader Words := do
  let const ← word? "const"
  let async ← word? "async"
  let unsafety ← word? "unsafe"
  let link ← linkage
  return const ++ async ++ unsafety ++ link ++ (← word "fn")

def atFunction (ts : List TokenTree) : Bool := (functionHead ts).isSome

def output : Reader (Option SigType) := do
  if ← next (atSymbol "->") then
    let _ ← symbol "->"
    return some (← g.type true)
  else return none

def body : Reader (List Attribute × Words) := within .brace do
  let inner ← innerAttributes g
  return (inner, ← fun ts => some (TokenTree.allWords ts, []))

def method (attributes : List Attribute) : Reader Method := do
  let head ← functionHead
  let name ← name
  let generics ← generics g
  let (arguments, variadic) ← within .paren (arguments g)
  let output ← output g
  let conditions ← conditions g
  let m : Method :=
    { attributes, head, name, generics, arguments, variadic, output, conditions, body := none }
  if ← next (atGroup .brace) then
    let (inner, words) ← body g
    return { m with attributes := attributes ++ inner, body := some words }
  let _ ← symbol ";"
  return m

def constMember : Reader Words := do
  let head ← word "const"
  let n ← if ← next (atWord "_") then anyIdent else name
  let generics ← generics g
  let colon ← symbol ":"
  let type ← typeWords g true
  let default ← when (atSymbol "=")
    (do return (← symbol "=") ++ (← verbatim (g.expr false)))
  let conditions ← conditions g
  return head ++ n :: generics ++ colon ++ type ++ default ++ conditions ++ (← symbol ";")

def typeMember : Reader Words := do
  let head ← word "type"
  let n ← name
  let generics ← generics g
  let bounds ← colonBounds g fun ts => atWord "where" ts || atSymbol "=" ts || atSymbol ";" ts
  let default ← when (atSymbol "=") (do return (← symbol "=") ++ (← typeWords g true))
  let conditions ← conditions g
  return head ++ n :: generics ++ bounds ++ default ++ conditions ++ (← symbol ";")

def macroMember : Reader Words := do
  let p ← namePath
  let bang ← symbol "!"
  let (d, content) ← anyGroup
  let end_ ← if d = .brace then pure [] else symbol ";"
  return p.words ++ bang ++ d.surround (TokenTree.allWords content) ++ end_

def member : Reader Member := fun ts =>
  let read : Reader (Member × Bool) := do
    let attributes ← attributes g
    let marks := (← visibility) ++ (← word? "default")
    let marked := !marks.isEmpty
    if ← next atFunction then return (.method (← method g attributes), marked)
    let words := attributes.flatMap (·.words)
    if ← next (atWord "const") then return (.other (words ++ (← constMember g)), marked)
    if ← next (atWord "type") then return (.other (words ++ (← typeMember g)), marked)
    if marked then failure
    return (.other (words ++ (← macroMember)), false)
  match read ts with
  | some ((_, true), rest) =>
    some (.other (TokenTree.allWords (ts.take (ts.length - rest.length))), rest)
  | some ((m, false), rest) => some (m, rest)
  | none => none

def supertraits : Reader Words :=
  colonBounds g fun ts => atWord "where" ts || atGroup .brace ts

def traitBody : Reader (List Attribute × List Member) := within .brace do
  let inner ← innerAttributes g
  return (inner, ← many (fun ts => !ts.isEmpty) (member g))

def traitItem : Reader TraitItem := do
  let outer ← attributes g
  let visibility ← visibility
  let unsafety ← word? "unsafe"
  let auto ← word? "auto"
  let head ← word "trait"
  let name ← name
  let generics ← generics g
  let supertraits ← supertraits g
  let conditions ← conditions g
  let (inner, members) ← traitBody g
  return {
    attributes := outer ++ inner
    visibility
    head := unsafety ++ auto ++ head
    name
    isGeneric := !generics.isEmpty
    generics
    supertraits
    conditions
    members }

end Layer

end SoapWrap.Trait.Grammar

namespace SoapWrap.Trait

def SigType.parse (s : String) : Option SigType :=
  (tokenTrees s).bind (Grammar.parse fun g => g.type true)

def TraitItem.parse (s : String) : Option TraitItem :=
  (tokenTrees s).bind (Grammar.parse Grammar.traitItem)

end SoapWrap.Trait
