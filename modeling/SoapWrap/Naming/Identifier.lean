import SoapWrap.Naming.Words
import SoapWrap.Text.Dotted

/-!
Identifiers and namespaces derived from names. The same name always gives the same identifier,
so that the accessors of a wrapper and the calls of its adapter agree.
-/

namespace SoapWrap.Naming

def reservedWords : List String := [
  "abstract", "as", "assert", "async", "await", "boolean", "break", "byte", "case", "catch",
  "char", "class", "const", "continue", "crate", "default", "do", "double", "dyn", "else",
  "enum", "extends", "extern", "false", "final", "finally", "float", "fn", "for", "goto", "if",
  "impl", "implements", "import", "in", "instanceof", "int", "interface", "let", "long", "loop",
  "match", "mod", "move", "mut", "native", "new", "null", "package", "private", "protected",
  "pub", "public", "ref", "return", "self", "short", "static", "strictfp", "struct", "super",
  "switch", "synchronized", "this", "throw", "throws", "trait", "transient", "true", "try",
  "type", "unsafe", "use", "void", "volatile", "where", "while"]

def isReserved (word : String) : Bool := reservedWords.contains word

/-- The namespace of a package, its segments in reverse: `org.acme` gives `http://acme.org/`. -/
def deriveNamespace (package : String) : String :=
  .ofList ("http://".toList ++
    Text.joinWith ['.'] (Text.segments package.toList).reverse ++ ['/'])

def capitalize (s : String) : String := .ofList (Text.capitalize s.toList)

def camelCase : List (List Char) → List Char
  | [] => []
  | first :: rest => Text.lower first ++ rest.flatMap Text.capitalize

def needsUnderscore (ident : List Char) : Bool :=
  match ident with
  | [] => true
  | c :: _ => Text.isAsciiDigit c || isReserved (.ofList ident)

def fieldIdentifier (wireName : String) : String :=
  let ident := camelCase (words wireName.toList)
  .ofList (if needsUnderscore ident then '_' :: ident else ident)

def accessor (start wireName : String) : String :=
  .ofList (start.toList ++ (words wireName.toList).flatMap Text.capitalize)

def getterIdentifier (wireName : String) : String := accessor "get" wireName

def setterIdentifier (wireName : String) : String := accessor "set" wireName

def effective (explicit : Option String) (fallback : String) : String :=
  explicit.getD fallback

end SoapWrap.Naming
