import SoapWrap.Files.Basic
import SoapWrap.Metadata.Codec
import SoapWrap.Yaml.Node

/-!
Loading an index from YAML, or from a file whose name tells the format. A reading of YAML may follow
references only so often, which depends on the size of the document.
-/

namespace SoapWrap

namespace Yaml

/-- The number of references that a reading of a node follows. -/
abbrev Toll := View → Nat

namespace Toll

def total (tolls : List Nat) : Nat := tolls.foldl (· + ·) 0

def leaf : Toll := fun v => if v.isReference then 1 else 0

def items (item : Toll) (v : View) : Nat :=
  match v.head with
  | sequence _ ys => total (ys.map fun y => item (v.sub y))
  | _ => 0

def list (item : Toll) : Toll := fun v => leaf v + items item v

def texts : Toll := fun v =>
  leaf v +
    match v.head with
    | mapping _ entries => total (entries.map fun (k, x) => leaf (v.sub k) + leaf (v.sub x))
    | _ => 0

def record (fields : List (String × Toll)) : Toll := fun v =>
  leaf v +
    match v.head with
    | mapping _ entries =>
      total (entries.map fun (k, x) =>
        leaf (v.sub k) + (((v.sub k).text?.bind (List.lookup · fields)).map (· (v.sub x))).getD 0)
    | sequence _ ys => total (List.zipWith (fun field y => field.2 (v.sub y)) fields ys)
    | _ => 0

def tags : Toll := list (record [("name", leaf), ("values", texts)])

def params : Toll := list (record [("type", leaf), ("name", leaf), ("tags", tags)])

def methods : Toll :=
  list (record [("name", leaf), ("params", params), ("returns", leaf), ("throws", list leaf),
    ("tags", tags)])

def types : Toll :=
  list (record [("name", leaf), ("kind", leaf), ("tags", tags), ("methods", methods),
    ("fault_info", leaf)])

end Toll

def typeList? (text : String) : Option View :=
  (parse text).filter fun v => Toll.types v ≤ v.node.maxJumps

end Yaml

namespace Index

def ofYamlText (text : String) : Except IndexError Index := ofText Yaml.typeList? text

def ofFile (path : String) : FileText → Except IndexError Index
  | .text s => if hasExtension path "json" then ofJsonText s else ofYamlText s
  | _ => .error .unreadableFile

end Index

end SoapWrap
