/-!
# A place in a YAML text

YAML reads the layout of a text, so its readers keep count of lines and columns. A cursor is the
text that is still to be read, with the place where it starts.
-/

namespace PullCache.Yaml

/-! ### Characters -/

/-- The characters that a text may have. -/
def isAllowed (c : Char) : Bool :=
  c == '\t' || c == '\n' || c == '\r' || (' ' ≤ c && c ≤ '~') || c == '\u0085' ||
    ('\u00a0' ≤ c && c != '\ufffe' && c != '\uffff')

/-- A space or a tab. -/
def isBlank (c : Char) : Bool :=
  c == ' ' || c == '\t'

/-- A character that ends a line. -/
def isBreak (c : Char) : Bool :=
  c == '\n' || c == '\r' || c == '\u0085' || c == '\u2028' || c == '\u2029'

/-- What a break counts as in a text: a line feed, or one of the two separators of Unicode. -/
def breakText (c : Char) : Char :=
  if c == '\u2028' || c == '\u2029' then c else '\n'

/-- Whether a text stops or has a blank or a break here. -/
def isGapOrEnd (c : Option Char) : Bool :=
  c.all fun c ↦ isBlank c || isBreak c

/-- Whether a text stops or has a break here. -/
def isBreakOrEnd (c : Option Char) : Bool :=
  c.all isBreak

/-- The characters of names: of anchors, directives and the handles of tags. -/
def isNameChar (c : Char) : Bool :=
  c.isAlphanum || c == '_' || c == '-'

/-! ### Places -/

/-- A place: characters before it, lines before it, and characters before it in its line. -/
structure Place where
  index : Nat := 0
  line : Nat := 0
  column : Nat := 0
deriving DecidableEq, Repr

namespace Place

/-- So many characters to the right. -/
def right (place : Place) (n : Nat) : Place :=
  { place with index := place.index + n, column := place.column + n }

/-- The start of the next line, after a break of so many characters. -/
def nextLine (place : Place) (n : Nat) : Place :=
  { index := place.index + n, line := place.line + 1, column := 0 }

end Place

/-- The text from a place on. -/
structure Cursor where
  place : Place := {}
  rest : List Char
deriving DecidableEq, Repr

namespace Cursor

/-- The column of the next character. -/
def column (cursor : Cursor) : Nat :=
  cursor.place.column

/-- Passes so many characters, none of which is a break. -/
def skip (cursor : Cursor) (n : Nat) : Cursor :=
  { place := cursor.place.right n, rest := cursor.rest.drop n }

/-- Passes the characters of a kind that stand next, and gives them. -/
def takeWhile (cursor : Cursor) (p : Char → Bool) : List Char × Cursor :=
  let run := cursor.rest.takeWhile p
  (run, cursor.skip run.length)

/-- Passes the characters of a kind that stand next. -/
def skipWhile (cursor : Cursor) (p : Char → Bool) : Cursor :=
  (cursor.takeWhile p).2

/-- Passes a break, if one stands next; gives what it counts as. -/
def takeBreak (cursor : Cursor) : Option Char × Cursor :=
  match cursor.rest with
  | '\r' :: '\n' :: rest => (some '\n', { place := cursor.place.nextLine 2, rest })
  | c :: rest =>
    if isBreak c then (some (breakText c), { place := cursor.place.nextLine 1, rest })
    else (none, cursor)
  | [] => (none, cursor)

/-- Passes blanks, a comment and the end of the line; fails if something else stands there. -/
def endLine? (cursor : Cursor) : Option Cursor :=
  let cursor := cursor.skipWhile isBlank
  let cursor :=
    if cursor.rest.head? = some '#' then cursor.skipWhile fun c ↦ !isBreak c else cursor
  if isBreakOrEnd cursor.rest.head? then some cursor.takeBreak.2 else none

/-- Whether a line starts here with a character three times, and a gap or the end of the text. -/
def atMark (cursor : Cursor) (mark : Char) : Bool :=
  cursor.column == 0 && cursor.rest.take 3 == [mark, mark, mark] && isGapOrEnd cursor.rest[3]?

/-- Whether a line starts here that separates documents. -/
def atDocumentMark (cursor : Cursor) : Bool :=
  cursor.atMark '-' || cursor.atMark '.'

end Cursor

end PullCache.Yaml
