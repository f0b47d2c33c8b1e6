import PullCache.Yaml.Cursor

/-!
# Gaps in scalars

The white space between two words of a plain or quoted scalar is a gap. Within a line it counts as
written. Across lines it is folded: the blanks around the breaks go, a single line feed becomes a
space, and of several the first goes.
-/

namespace PullCache.Yaml

/-- The white space between two words. -/
structure Gap where
  /-- The blanks before the first break, last first. -/
  blanks : List Char := []
  /-- The breaks, last first. -/
  breaks : List Char := []
  /-- Whether the gap starts with an escaped break, which does not count. -/
  escaped : Bool := false
deriving DecidableEq, Repr

namespace Gap

/-- Whether the gap goes on in a later line. -/
def isBroken (gap : Gap) : Bool :=
  gap.escaped || !gap.breaks.isEmpty

/-- What a gap counts as. -/
def text (gap : Gap) : List Char :=
  if gap.escaped then gap.breaks.reverse
  else
    match gap.breaks.reverse with
    | [] => gap.blanks.reverse
    | ['\n'] => [' ']
    | '\n' :: breaks => breaks
    | breaks => breaks

/-- Reads the rest of a gap. A tab may not stand in the indentation of a line, left of the given
column. -/
def readFrom? (least : Nat) (gap : Gap) (place : Place) : List Char → Option (Gap × Cursor)
  | [] => some (gap, { place, rest := [] })
  | '\r' :: '\n' :: rest =>
    readFrom? least { gap with breaks := '\n' :: gap.breaks } (place.nextLine 2) rest
  | c :: rest =>
    if isBlank c then
      if !gap.isBroken then
        readFrom? least { gap with blanks := c :: gap.blanks } (place.right 1) rest
      else if c == '\t' && place.column < least then none
      else readFrom? least gap (place.right 1) rest
    else if isBreak c then
      readFrom? least { gap with breaks := breakText c :: gap.breaks } (place.nextLine 1) rest
    else some (gap, { place, rest := c :: rest })

/-- Reads a gap. -/
def read? (least : Nat) (cursor : Cursor) : Option (Gap × Cursor) :=
  readFrom? least {} cursor.place cursor.rest

/-- Reads the gap after an escaped break. -/
def readEscaped? (cursor : Cursor) : Option (Gap × Cursor) :=
  readFrom? 0 { escaped := true } cursor.place cursor.rest

end Gap

end PullCache.Yaml
