import SoapWrap.Text.Class

/-!
The words of a wire name. A word ends at a character that is not alphanumeric, and before an
upper-case letter that follows a letter of another case or that a lower-case letter follows.
-/

namespace SoapWrap.Naming

def startsWord (prev c : Char) (next : Option Char) : Bool :=
  Text.isUpper c && (!Text.isUpper prev || next.any Text.isLower)

def wordsFrom (current : List Char) : List Char → List (List Char)
  | [] => if current.isEmpty then [] else [current]
  | c :: rest =>
    if Text.isAlnum c then
      match current.getLast? with
      | none => wordsFrom [c] rest
      | some prev =>
        if startsWord prev c rest.head? then current :: wordsFrom [c] rest
        else wordsFrom (current ++ [c]) rest
    else if current.isEmpty then wordsFrom [] rest
    else current :: wordsFrom [] rest

def words (name : List Char) : List (List Char) := wordsFrom [] name

def splitWords (name : String) : List String := (words name.toList).map .ofList

end SoapWrap.Naming
