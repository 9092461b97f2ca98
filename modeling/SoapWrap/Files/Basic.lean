import SoapWrap.Text.Class

namespace SoapWrap

inductive FileText where
  | absent
  | text (s : String)
  | unreadable

structure FileAccess (m : Type → Type) where
  read : (path : String) → m FileText
  makeDirectory : (path : String) → m Bool
  write : (path text : String) → m Bool

def joinPath (directory name : String) : String :=
  if directory = "" ∨ directory.toList.getLast? = some '/' then directory ++ name
  else directory ++ "/" ++ name

def extensionChars (name : List Char) : Option (List Char) :=
  let behind := name.reverse.takeWhile (· ≠ '.')
  match name.reverse.drop behind.length with
  | '.' :: _ :: _ => some behind.reverse
  | _ => none

def hasExtension (path ext : String) : Bool :=
  match extensionChars (path.toList.reverse.takeWhile (· ≠ '/')).reverse with
  | some cs => Text.eqIgnoreAsciiCase (.ofList cs) ext
  | none => false

end SoapWrap
