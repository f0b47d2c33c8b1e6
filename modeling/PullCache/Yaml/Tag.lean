import PullCache.Text.Digit
import PullCache.Yaml.Cursor

/-!
# Tags as they are written

A tag is written in full between angle brackets, or as a suffix after a handle, which stands for the
start of the full tag. The texts here are lists of bytes, each as the character of its number: what
may be written without an escape is ASCII, and an escape gives one byte of UTF-8.
-/

namespace PullCache.Yaml

/-- A tag as it is written: a handle, which is empty for a tag in full, and what follows it. -/
structure Tag where
  handle : List Char
  suffix : List Char
deriving DecidableEq, Repr

namespace Tag

/-- The characters of a tag that stand for themselves; some more do in a tag in full. -/
def isTagChar (full : Bool) (c : Char) : Bool :=
  isNameChar c || ";/?:@&=+$.!~*'()".toList.contains c || (full && ",[]".toList.contains c)

/-- How many bytes are still to come for a character of UTF-8, after one more byte of it. -/
def dueAfter? : Nat → Nat → Option Nat
  | 0, byte =>
    if byte < 0x80 then some 0
    else if byte < 0xC0 then none
    else if byte < 0xE0 then some 1
    else if byte < 0xF0 then some 2
    else if byte < 0xF8 then some 3
    else none
  | due + 1, byte => if 0x80 ≤ byte ∧ byte < 0xC0 then some due else none

/-- Reads characters of a tag, when so many bytes of a character are still to come; gives them, and
how many characters they are written with. -/
def chars? (full : Bool) : Nat → List Char → Option (List Char × Nat)
  | 0, [] => some ([], 0)
  | due, '%' :: a :: b :: rest => do
    let byte := (← Text.hexValue? a) * 16 + (← Text.hexValue? b)
    let due ← dueAfter? due byte
    let (text, size) ← chars? full due rest
    return (Char.ofNat byte :: text, size + 3)
  | 0, c :: rest =>
    if c == '%' then none
    else if isTagChar full c then do
      let (text, size) ← chars? full 0 rest
      return (c :: text, size + 1)
    else some ([], 0)
  | _ + 1, _ => none

/-- Reads characters of a tag from a place on. -/
def takeChars? (full : Bool) (cursor : Cursor) : Option (List Char × Cursor) := do
  let (text, size) ← chars? full 0 cursor.rest
  return (text, cursor.skip size)

/-- Reads an exclamation mark and the name after it, with the second mark that makes it a handle if
that is there. -/
def takeHandle? (cursor : Cursor) : Option (List Char × Cursor) :=
  match cursor.rest with
  | '!' :: rest =>
    let name := rest.takeWhile isNameChar
    let cursor := cursor.skip (name.length + 1)
    if cursor.rest.head? = some '!' then some ('!' :: (name ++ ['!']), cursor.skip 1)
    else some ('!' :: name, cursor)
  | _ => none

/-- Reads a tag, which starts with an exclamation mark and ends before a gap or, inside brackets,
before a comma. -/
def read? (inFlow : Bool) (cursor : Cursor) : Option (Tag × Cursor) := do
  let (tag, cursor) ←
    if cursor.rest[1]? = some '<' then do
      let (suffix, cursor) ← takeChars? true (cursor.skip 2)
      if suffix.isEmpty || cursor.rest.head? ≠ some '>' then none
      else some (({ handle := [], suffix } : Tag), cursor.skip 1)
    else do
      let (handle, cursor) ← takeHandle? cursor
      let (suffix, cursor) ← takeChars? false cursor
      if handle.length ≥ 2 && handle.getLast? = some '!' then
        if suffix.isEmpty then none else some ({ handle, suffix }, cursor)
      else
        let suffix := handle.drop 1 ++ suffix
        if suffix.isEmpty then some ({ handle := [], suffix := ['!'] }, cursor)
        else some ({ handle := ['!'], suffix }, cursor)
  if isGapOrEnd cursor.rest.head? || (inFlow && cursor.rest.head? = some ',') then
    some (tag, cursor)
  else none

end Tag

/-! ### Directives -/

/-- A line before a document. -/
inductive Directive where
  /-- `%YAML`: the version of the language. -/
  | version (major minor : Nat)
  /-- `%TAG`: what a handle stands for. -/
  | handle (handle expansion : List Char)
deriving DecidableEq, Repr

namespace Directive

/-- Reads a number of at most nine digits. -/
def number? (cursor : Cursor) : Option (Nat × Cursor) :=
  let (digits, cursor) := cursor.takeWhile Char.isDigit
  if digits.isEmpty || 9 < digits.length then none
  else some (Text.ofDecimal digits, cursor)

/-- Reads a directive after its percent sign, up to the line after it. -/
def read? (cursor : Cursor) : Option (Directive × Cursor) := do
  let (name, cursor) := cursor.takeWhile isNameChar
  if !isGapOrEnd cursor.rest.head? then none
  let cursor := cursor.skipWhile isBlank
  if name = "YAML".toList then
    let (major, cursor) ← number? cursor
    if cursor.rest.head? ≠ some '.' then none
    let (minor, cursor) ← number? (cursor.skip 1)
    return (version major minor, ← cursor.endLine?)
  else if name = "TAG".toList then
    let (name, cursor) ← Tag.takeHandle? cursor
    if name ≠ ['!'] ∧ name.getLast? ≠ some '!' then none
    if !cursor.rest.head?.any isBlank then none
    let (expansion, cursor) ← Tag.takeChars? true (cursor.skipWhile isBlank)
    if expansion.isEmpty || !isGapOrEnd cursor.rest.head? then none
    return (handle name expansion, ← cursor.endLine?)
  else none

end Directive

end PullCache.Yaml
