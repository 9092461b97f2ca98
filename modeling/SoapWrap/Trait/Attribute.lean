import SoapWrap.Trait.Expression

namespace SoapWrap.Trait

structure NamePath where
  absolute : Bool
  names : List String
  deriving DecidableEq

namespace NamePath

def ident? (p : NamePath) : Option String :=
  match p.absolute, p.names with
  | false, [n] => some n
  | _, _ => none

def is (p : NamePath) (name : String) : Bool := p.ident? == some name

def colons : List String := [":", ":"]

def words (p : NamePath) : List String :=
  (if p.absolute then colons else []) ++ List.intercalate colons (p.names.map ([·]))

end NamePath

inductive Meta where
  | path (p : NamePath)
  | list (p : NamePath) (d : Delimiter) (content : List TokenTree)
  | nameValue (p : NamePath) (value : Value) (words : List String)

namespace Meta

def head : Meta → NamePath
  | path p => p
  | list p _ _ => p
  | nameValue p _ _ => p

def words : Meta → List String
  | path p => p.words
  | list p d content => p.words ++ d.surround (TokenTree.allWords content)
  | nameValue p _ words => p.words ++ "=" :: words

end Meta

structure Attribute where
  /-- Whether it is about what it stands in. -/
  inner : Bool
  content : Meta

namespace Attribute

def path (a : Attribute) : NamePath := a.content.head

def words (a : Attribute) : List String :=
  "#" :: ((if a.inner then ["!"] else []) ++ Delimiter.bracket.surround a.content.words)

end Attribute

namespace Grammar

open Reader

def names (isPart : List TokenTree → Bool) : Reader NamePath := do
  let colons ← symbol? "::"
  guard isPart
  let first ← anyIdent
  let rest ← many (atSymbol "::") (do
    let _ ← symbol "::"
    guard isPart
    anyIdent)
  return ⟨!colons.isEmpty, first :: rest⟩

def namePath : Reader NamePath := names fun ts => atName ts || atPathKeyword ts

def wordPath : Reader NamePath := names atAnyIdent

def atAttribute (ts : List TokenTree) : Bool := atSymbol "#" ts && atGroup .bracket (ts.drop 1)

def metaValue (g : Grammar) : Reader Value := fun ts =>
  match literal? ts with
  | some (value, _, []) => some (.ofLiteral value, [])
  | _ => if atAttribute ts then none else g.expr false ts

def withWords (r : Reader α) : Reader (α × Words) := fun ts =>
  (r ts).map fun (a, rest) => ((a, TokenTree.allWords (ts.take (ts.length - rest.length))), rest)

def metaRest (g : Grammar) (p : NamePath) : Reader Meta := do
  if ← next fun ts => Delimiter.all.any (atGroup · ts) then
    let (d, content) ← anyGroup
    return .list p d content
  if ← next (atSymbol "=") then
    let _ ← symbol "="
    let (value, words) ← withWords (metaValue g)
    return .nameValue p value words
  return .path p

def readMeta (g : Grammar) : Reader Meta := do
  if ← next (atWord "unsafe") then metaRest g ⟨false, [← anyIdent]⟩ else metaRest g (← namePath)

def readAttribute (g : Grammar) (inner : Bool) : Reader Attribute := do
  let _ ← symbol "#"
  if inner then
    let _ ← symbol "!"
  return ⟨inner, ← within .bracket (readMeta g)⟩

def attributes (g : Grammar) : Reader (List Attribute) := many (atSymbol "#") (readAttribute g false)

def innerAttributes (g : Grammar) : Reader (List Attribute) :=
  many (fun ts => atSymbol "#" ts && atSymbol "!" (ts.drop 1)) (readAttribute g true)

end Grammar

end SoapWrap.Trait
