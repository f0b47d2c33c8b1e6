import PullCache.Yaml.Cursor

/-!
# Block scalars

A block scalar is the lines below its header that are indented, either as they are or folded. The
header may say how deep the indentation is and what becomes of the breaks at the end; without a word
on it, the first line that is not empty sets the indentation, and one break at the end is kept.
-/

namespace PullCache.Yaml.Block

/-- What becomes of the breaks at the end. -/
inductive Chomping where
  | strip
  | clip
  | keep
deriving DecidableEq, Repr

/-- The first line of a block scalar, after the character that says whether it is folded. -/
structure Header where
  chomping : Chomping := .clip
  /-- How much deeper the lines are than what the scalar stands in; zero if that is left open. -/
  increment : Nat := 0
deriving DecidableEq, Repr

/-- Reads the sign of a chomping. -/
def chomping? : Option Char → Option Chomping
  | some '+' => some .keep
  | some '-' => some .strip
  | _ => none

/-- Reads an increment, which is a digit but not zero; none counts as zero. -/
def increment? : Option Char → Option Nat
  | some c => if c == '0' then none else if c.isDigit then some (c.toNat - '0'.toNat) else some 0
  | none => some 0

/-- The header that two characters begin, and how many of them belong to it. Sign and digit may
stand in either order. -/
def signs? (first second : Option Char) : Option (Header × Nat) :=
  match chomping? first with
  | some chomping =>
    (increment? second).map fun increment ↦
      ({ chomping, increment }, if increment = 0 then 1 else 2)
  | none =>
    (increment? first).map fun increment ↦
      if increment = 0 then ({}, 0)
      else
        match chomping? second with
        | some chomping => ({ chomping, increment }, 2)
        | none => ({ increment }, 1)

/-- Reads a header, up to the line after it. -/
def header? (cursor : Cursor) : Option (Header × Cursor) := do
  let (header, size) ← signs? cursor.rest.head? cursor.rest[1]?
  return (header, ← (cursor.skip size).endLine?)

/-- Passes indentation and empty lines, up to the given column, or to any if that is zero. Gives the
breaks that were passed, last first, and the rightmost column that was reached. No tab may stand in
the indentation. -/
def skipEmptyLines? (indentation : Nat) (breaks : List Char) (widest : Nat) (place : Place) :
    List Char → Option (List Char × Nat × Cursor)
  | [] => some (breaks, max widest place.column, { place, rest := [] })
  | '\r' :: '\n' :: rest =>
    skipEmptyLines? indentation ('\n' :: breaks) (max widest place.column) (place.nextLine 2) rest
  | c :: rest =>
    let inIndentation := indentation == 0 || place.column < indentation
    if inIndentation && c == ' ' then
      skipEmptyLines? indentation breaks widest (place.right 1) rest
    else if inIndentation && c == '\t' then none
    else if isBreak c then
      skipEmptyLines? indentation (breakText c :: breaks) (max widest place.column)
        (place.nextLine 1) rest
    else some (breaks, max widest place.column, { place, rest := c :: rest })

/-- A line of a scalar, and the breaks that follow it. -/
structure Line where
  text : List Char
  breaks : List Char
deriving DecidableEq, Repr

/-- Reads lines that start at the given column, at most so many. -/
def lines? (indentation : Nat) : Nat → Cursor → Option (List Line × Cursor)
  | 0, _ => none
  | n + 1, cursor =>
    if cursor.column ≠ indentation ∨ cursor.rest.isEmpty then some ([], cursor)
    else do
      let (text, cursor) := cursor.takeWhile fun c ↦ !isBreak c
      let (breaks, _, cursor) ← skipEmptyLines? indentation [] 0 cursor.place cursor.rest
      let (lines, cursor) ← lines? indentation n cursor
      return ({ text, breaks := breaks.reverse } :: lines, cursor)

/-- Whether a line starts with a blank. -/
def Line.startsBlank (line : Line) : Bool :=
  line.text.head?.any isBlank

/-- The breaks between two lines that are folded: a single line feed becomes a space and of several
the first goes, unless one of the lines starts with a blank. -/
def foldedBreaks (line next : Line) : List Char :=
  if line.startsBlank || next.startsBlank then line.breaks
  else
    match line.breaks with
    | ['\n'] => [' ']
    | '\n' :: breaks => breaks
    | breaks => breaks

/-- The breaks that are left at the end of the last line. -/
def Chomping.apply : Chomping → List Char → List Char
  | strip, _ => []
  | clip, breaks => breaks.take 1
  | keep, breaks => breaks

/-- The text of some lines. -/
def joinLines (folded : Bool) (chomping : Chomping) : List Line → List Char
  | [] => []
  | [line] => line.text ++ chomping.apply line.breaks
  | line :: next :: lines =>
    line.text ++ (if folded then foldedBreaks line next else line.breaks) ++
      joinLines folded chomping (next :: lines)

/-- Reads a scalar after the character that says whether it is folded. What it stands in is indented
less than `least` columns; the bound is above the number of characters to read. -/
def read? (folded : Bool) (least bound : Nat) (cursor : Cursor) : Option (List Char × Cursor) := do
  let (header, cursor) ← header? cursor
  let given := if header.increment = 0 then 0 else (least - 1) + header.increment
  let (breaks, widest, cursor) ← skipEmptyLines? given [] 0 cursor.place cursor.rest
  let indentation := if given = 0 then max widest (max least 1) else given
  let (lines, cursor) ← lines? indentation bound cursor
  let leading := if lines.isEmpty && header.chomping ≠ .keep then [] else breaks.reverse
  return (leading ++ joinLines folded header.chomping lines, cursor)

end PullCache.Yaml.Block
