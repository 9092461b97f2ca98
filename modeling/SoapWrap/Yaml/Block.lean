import SoapWrap.Text.Class
import SoapWrap.Yaml.Cursor

/-!
Block scalars: lines below an indentation that is given or that of the first line. In folded ones a
single break between two lines that start with no blank reads as a blank.
-/

namespace SoapWrap.Yaml

inductive Chomping where
  | strip
  | clip
  | keep

def takeChomping (c : Cursor) : Chomping × Cursor :=
  match c.rest with
  | '+' :: _ => (.keep, c.skip)
  | '-' :: _ => (.strip, c.skip)
  | _ => (.clip, c)

def takeIncrement? (c : Cursor) : Option (Nat × Cursor) :=
  match c.rest with
  | '0' :: _ => none
  | d :: _ => if Text.isAsciiDigit d then some (d.toNat - 48, c.skip) else some (0, c)
  | [] => some (0, c)

def readBlockHeader (c : Cursor) : Option (Chomping × Nat × Cursor) :=
  match takeIncrement? c with
  | none => none
  | some (0, c) =>
    let (chomping, c) := takeChomping c
    (takeIncrement? c).map (chomping, ·)
  | some (increment, c) =>
    let (chomping, c) := takeChomping c
    some (chomping, increment, c)

structure Breaks where
  /-- The breaks of empty lines, last first. -/
  chars : List Char := []
  /-- The column of the line that reaches farthest. -/
  widest : Nat := 0

/-- Skips empty lines and the indentation of the next one; none where a tab stands in it. An
indentation of zero is not known yet. -/
def readBreaks (indent : Nat) (b : Breaks) : (fuel : Nat) → Cursor → Option (Breaks × Cursor)
  | 0, c => some (b, c)
  | fuel + 1, c =>
    let spaces := (c.rest.takeWhile (· == ' ')).length
    let c := c.skipMany (if indent = 0 then spaces else min spaces (indent - c.column))
    let b := { b with widest := max b.widest c.column }
    if (indent = 0 ∨ c.column < indent) ∧ c.rest.head? = some '\t' then none
    else if atBreak c.rest then
      readBreaks indent { b with chars := c.breakChar :: b.chars } fuel c.skipBreak
    else some (b, c)

structure BlockText where
  /-- The text without the breaks behind it, last character first. -/
  text : List Char := []
  leading : List Char := []
  trailing : List Char := []
  afterBlank : Bool := false

def BlockText.addLine (b : BlockText) (literal : Bool) (line : List Char) : List Char :=
  let folds := !literal && b.leading == ['\n'] && !b.afterBlank && !line.head?.any isBlank
  let leading := if folds then (if b.trailing.isEmpty then [' '] else []) else b.leading
  line.reverse ++ b.trailing ++ leading ++ b.text

def readBlockLines (literal : Bool) (indent : Nat) (b : BlockText) : (fuel : Nat) → Cursor →
    Option (BlockText × Cursor)
  | 0, c => some (b, c)
  | fuel + 1, c =>
    if c.rest.isEmpty || c.column != indent then some (b, c)
    else
      let line := c.rest.takeWhile (!isBreak ·)
      let next := c.skipMany line.length
      let leading := if next.rest.isEmpty then [] else [next.breakChar]
      match readBreaks indent {} (next.rest.length + 1) next.skipBreak with
      | none => none
      | some (breaks, next) =>
        readBlockLines literal indent {
          text := b.addLine literal line
          leading
          trailing := breaks.chars
          afterBlank := line.head?.any isBlank } fuel next

def readBlock (literal : Bool) (parent : Option Nat) (c : Cursor) : Option (List Char × Cursor) := do
  let (chomping, increment, c) ← readBlockHeader c
  let c ← c.endLine?
  let given := if increment = 0 then 0 else parent.getD 0 + increment
  let (breaks, c) ← readBreaks given {} (c.rest.length + 1) c
  let indent :=
    if increment = 0 then max breaks.widest (max ((parent.map (· + 1)).getD 0) 1) else given
  let (b, c) ← readBlockLines literal indent { trailing := breaks.chars } (c.rest.length + 1) c
  let text := match chomping with
    | .strip => b.text
    | .clip => b.leading ++ b.text
    | .keep => b.trailing ++ b.leading ++ b.text
  return (text.reverse, c)

end SoapWrap.Yaml
