/-!
Types in signatures, as far as a service looks into them: through references and parentheses to a
path, of which the last name and its type arguments matter. Every type knows its words.
-/

namespace SoapWrap.Trait

inductive SigType where
  | reference (words : List String) (target : SigType)
  | paren (words : List String) (inner : SigType)
  | unit
  /-- `qualified` is about a path that starts from a type in angle brackets. -/
  | path (words : List String) (qualified : Bool) (name : String) (args : List SigType)
  | other (words : List String)

namespace SigType

instance : Inhabited SigType := ⟨unit⟩

def words : SigType → List String
  | reference words _ => words
  | paren words _ => words
  | unit => ["(", ")"]
  | path words _ _ _ => words
  | other words => words

def joins : SigType → Bool
  | path _ qualified _ _ => !qualified
  | _ => false

end SigType

end SoapWrap.Trait
