import SoapWrap.Files.Basic

namespace SoapWrap

/-- Texts, and `none` for directories, by their parts; the latest entry counts. -/
structure FileTree where
  entries : List (List String × Option String) := []

namespace FileTree

def isDirectory (t : FileTree) (parts : List String) : Bool :=
  parts.isEmpty || t.entries.lookup parts == some none

def parts (path : String) : List String := path.splitOn "/"

def isRelative (path : String) : Bool := path ≠ "" ∧ path.toList.head? ≠ some '/'

def walk (t : FileTree) (at_ : List String) : List String → Option (List String)
  | [] => some at_
  | part :: rest =>
    if !t.isDirectory at_ then none
    else if part = "" ∨ part = "." then t.walk at_ rest
    else if part = ".." then t.walk at_.dropLast rest
    else t.walk (at_ ++ [part]) rest

def resolve (t : FileTree) (path : String) : Option (List String) :=
  if isRelative path then t.walk [] (parts path) else none

def read (t : FileTree) (path : String) : FileText :=
  match t.resolve path with
  | none => .absent
  | some p =>
    if t.isDirectory p then .unreadable
    else match t.entries.lookup p with
      | some (some text) => .text text
      | _ => .absent

def makeDirectories (t : FileTree) (at_ : List String) : List String → Option FileTree
  | [] => if t.isDirectory at_ then some t else none
  | part :: rest =>
    if !t.isDirectory at_ then none
    else if part = "" ∨ part = "." then t.makeDirectories at_ rest
    else if part = ".." then t.makeDirectories at_.dropLast rest
    else if (t.entries.lookup (at_ ++ [part])).isSome then t.makeDirectories (at_ ++ [part]) rest
    else makeDirectories ⟨(at_ ++ [part], none) :: t.entries⟩ (at_ ++ [part]) rest

def makeDirectory (t : FileTree) (path : String) : Option FileTree :=
  if path = "" then some t
  else if isRelative path then t.makeDirectories [] (parts path)
  else none

def write (t : FileTree) (path text : String) : Option FileTree :=
  match t.resolve path with
  | none => none
  | some p => if t.isDirectory p then none else some ⟨(p, some text) :: t.entries⟩

def ofFiles (files : List (String × String)) : FileTree :=
  files.foldl (fun t (path, text) =>
    let t := (t.makeDirectories [] (parts path).dropLast).getD t
    (t.write path text).getD t) {}

def update (step : FileTree → Option FileTree) : StateM FileTree Bool := fun t =>
  match step t with
  | some t => (true, t)
  | none => (false, t)

def access : FileAccess (StateM FileTree) where
  read path := fun t => (t.read path, t)
  makeDirectory path := update (·.makeDirectory path)
  write path text := update (·.write path text)

end FileTree

end SoapWrap
