import SoapWrap.Json.Basic
import SoapWrap.Json.Quoted

namespace SoapWrap.Json

def intText (i : Int) : List Char :=
  if i < 0 then '-' :: Nat.toDigits 10 i.natAbs else Nat.toDigits 10 i.natAbs

def unreadableText : List Char := "\"\\ud800\"".toList

def leafText : Json → List Char
  | null => "null".toList
  | bool true => "true".toList
  | bool false => "false".toList
  | int i => intText i
  | real lexeme => lexeme.toList
  | str s => quote s
  | arr _ => "[]".toList
  | obj _ => "\x7b\x7d".toList
  | unreadable => unreadableText

mutual
def compactChars : Json → List Char
  | arr (a :: rest) => '[' :: (compactChars a ++ compactItems rest)
  | obj ((k, a) :: rest) => '{' :: (quote k ++ ':' :: (compactChars a ++ compactMembers rest))
  | j => leafText j
def compactItems : List Json → List Char
  | [] => [']']
  | a :: rest => ',' :: (compactChars a ++ compactItems rest)
def compactMembers : List (String × Json) → List Char
  | [] => ['}']
  | (k, a) :: rest => ',' :: (quote k ++ ':' :: (compactChars a ++ compactMembers rest))
end

def newline (level : Nat) : List Char := '\n' :: List.replicate (2 * level) ' '

mutual
def prettyChars (level : Nat) : Json → List Char
  | arr (a :: rest) =>
    '[' :: (newline (level + 1) ++ prettyChars (level + 1) a ++ prettyItems level rest)
  | obj ((k, a) :: rest) =>
    '{' :: (newline (level + 1) ++ quote k ++ ':' :: ' ' ::
      (prettyChars (level + 1) a ++ prettyMembers level rest))
  | j => leafText j
def prettyItems (level : Nat) : List Json → List Char
  | [] => newline level ++ [']']
  | a :: rest =>
    ',' :: (newline (level + 1) ++ prettyChars (level + 1) a ++ prettyItems level rest)
def prettyMembers (level : Nat) : List (String × Json) → List Char
  | [] => newline level ++ ['}']
  | (k, a) :: rest =>
    ',' :: (newline (level + 1) ++ quote k ++ ':' :: ' ' ::
      (prettyChars (level + 1) a ++ prettyMembers level rest))
end

def compact (j : Json) : String := .ofList (compactChars j)

def pretty (j : Json) : String := .ofList (prettyChars 0 j)

end SoapWrap.Json
