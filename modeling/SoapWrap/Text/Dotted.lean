namespace SoapWrap.Text

def segments : List Char → List (List Char)
  | [] => [[]]
  | c :: rest =>
    if c = '.' then [] :: segments rest
    else match segments rest with
      | [] => [[c]]
      | s :: more => (c :: s) :: more

def joinWith (sep : List Char) : List (List Char) → List Char
  | [] => []
  | [s] => s
  | s :: t :: more => s ++ sep ++ joinWith sep (t :: more)

def packageOf (cs : List Char) : List Char :=
  joinWith ['.'] (segments cs).dropLast

def simpleOf (cs : List Char) : List Char :=
  (segments cs).getLastD []

def packageName (name : String) : String := .ofList (packageOf name.toList)

def simpleName (name : String) : String := .ofList (simpleOf name.toList)

def qualify (package name : String) : String :=
  if package = "" then name else package ++ "." ++ name

theorem segments_ne_nil (cs : List Char) : segments cs ≠ [] := by
  induction cs with
  | nil => simp [segments]
  | cons c rest ih =>
    unfold segments
    split
    · simp
    · split <;> simp

theorem joinWith_segments (cs : List Char) : joinWith ['.'] (segments cs) = cs := by
  induction cs with
  | nil => rfl
  | cons c rest ih =>
    unfold segments
    split
    · next h =>
      subst h
      cases hs : segments rest with
      | nil => exact absurd hs (segments_ne_nil rest)
      | cons s more => rw [hs] at ih; simp [joinWith, ih]
    · split
      · next hs => exact absurd hs (segments_ne_nil rest)
      · next s more hs =>
        rw [hs] at ih
        cases more with
        | nil => simp_all [joinWith]
        | cons t more => simp_all [joinWith]

end SoapWrap.Text
