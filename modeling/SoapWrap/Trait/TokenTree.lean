import SoapWrap.Trait.Literal

/-!
Token trees: identifiers, literals, single characters of punctuation, and groups between matching
delimiters. In their written form every token stands alone, with a blank between two.
-/

namespace SoapWrap.Trait

inductive Delimiter where
  | paren
  | bracket
  | brace
  deriving DecidableEq

namespace Delimiter

def opening : Delimiter → Char
  | paren => '('
  | bracket => '['
  | brace => '{'

def closing : Delimiter → Char
  | paren => ')'
  | bracket => ']'
  | brace => '}'

def all : List Delimiter := [paren, bracket, brace]

def ofOpening? (c : Char) : Option Delimiter := all.find? (·.opening = c)

def ofClosing? (c : Char) : Option Delimiter := all.find? (·.closing = c)

def surround (d : Delimiter) (words : List String) : List String :=
  d.opening.toString :: (words ++ [d.closing.toString])

end Delimiter

inductive TokenTree where
  | ident (name : String)
  /-- One character; `joint` if another one follows at once. -/
  | punct (c : Char) (joint : Bool)
  | literal (lexeme : String) (value : Literal)
  | group (d : Delimiter) (content : List TokenTree)

namespace TokenTree

instance : Inhabited TokenTree := ⟨ident ""⟩

mutual
def words : TokenTree → List String
  | ident name => [name]
  | punct c _ => [c.toString]
  | literal lexeme _ => [lexeme]
  | group d content => d.surround (allWords content)
def allWords : List TokenTree → List String
  | [] => []
  | t :: rest => t.words ++ allWords rest
end

mutual
def size : TokenTree → Nat
  | group _ content => sizeAll content + 1
  | _ => 1
def sizeAll : List TokenTree → Nat
  | [] => 0
  | t :: rest => t.size + sizeAll rest
end

end TokenTree

end SoapWrap.Trait
