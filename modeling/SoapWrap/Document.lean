import SoapWrap.Json.Basic

/-!
Reading records out of parsed documents, whatever their format. A record is written by keys, where
unknown keys are skipped and known ones stand at most once, or by position, in the order of its
fields.
-/

namespace SoapWrap

inductive Layout (δ : Type) where
  | keyed (members : List (String × δ))
  | positional (items : List δ)

def Layout.fields? {δ : Type} (names : List String) : Layout δ → Option (String → Option δ)
  | .keyed members =>
    if names.all fun n => (members.filter (·.1 == n)).length ≤ 1 then
      some fun n => members.lookup n
    else none
  | .positional items =>
    if items.length ≤ names.length then some fun n => (names.zip items).lookup n else none

class Document (δ : Type) where
  text? : δ → Option String
  items? : δ → Option (List δ)
  entries? : δ → Option (List (String × δ))
  layout? : δ → Option (Layout δ)
  choice? : δ → Option String
  absent? : δ → Option Bool

namespace Document

variable {δ α : Type}

variable [Document δ]

def record? (names : List String) (d : δ) : Option (String → Option δ) :=
  (layout? d).bind (Layout.fields? names)

def required (read : δ → Option α) : Option δ → Option α
  | some d => read d
  | none => none

def orDefault (default : α) (read : δ → Option α) : Option δ → Option α
  | some d => read d
  | none => some default

def optional (read : δ → Option α) : Option δ → Option (Option α)
  | some d =>
    match absent? d with
    | some absent => if absent then some none else (read d).map some
    | none => none
  | none => some none

def list (read : δ → Option α) (d : δ) : Option (List α) :=
  (items? d).bind (·.mapM read)

end Document

namespace Json

instance : Document Json where
  text?
    | str s => some s
    | _ => none
  items?
    | arr items => some items
    | _ => none
  entries?
    | obj members => some members
    | _ => none
  layout?
    | obj members => some (.keyed members)
    | arr items => some (.positional items)
    | _ => none
  choice?
    | str s => some s
    | obj [(key, null)] => some key
    | _ => none
  absent?
    | null => some true
    | _ => some false

end Json

end SoapWrap
