import SoapWrap.Text.Class

namespace SoapWrap.Naming

def beginsWord (before : Option Char) (next : List Char) : Bool :=
  match before with
  | none => false
  | some b => Text.isLower b || (Text.isUpper b && next.head?.any Text.isLower)

def snakeChars (before : Option Char) : List Char → List Char
  | [] => []
  | c :: rest =>
    (if Text.isUpper c then
      (if beginsWord before rest then ['_'] else []) ++ Text.lowerChar c
    else [c]) ++ snakeChars (some c) rest

def snake (s : String) : String := .ofList (snakeChars none s.toList)

def camelChars (capital : Bool) : List Char → List Char
  | [] => []
  | c :: rest =>
    if c = '_' then camelChars true rest
    else (if capital then Text.upperChar c else [c]) ++ camelChars false rest

def camel (s : String) : String := .ofList (camelChars false s.toList)

end SoapWrap.Naming
