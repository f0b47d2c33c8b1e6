import PullCache.Yaml.Scalar.Gap

/-!
# Plain scalars

A plain scalar is a run of words, in one line or in several that are indented alike or deeper. It
ends before a comment, before a colon that is followed by white space, and, inside brackets, before
one of the characters that part a collection.
-/

namespace PullCache.Yaml.Plain

/-- The characters that part a collection in brackets. -/
def isFlowIndicator (c : Char) : Bool :=
  c == ',' || c == '[' || c == ']' || c == '{' || c == '}'

/-- Reads a word. Inside brackets no colon in it may be followed by an indicator. -/
def word? (inFlow : Bool) : List Char → Option (List Char)
  | [] => some []
  | c :: rest =>
    if isBlank c || isBreak c then some []
    else if inFlow && c == ':' && rest.head?.any fun c ↦ isFlowIndicator c || c == '?' then none
    else if c == ':' && isGapOrEnd rest.head? then some []
    else if inFlow && isFlowIndicator c then some []
    else (word? inFlow rest).map (c :: ·)

/-- A plain scalar that has been read. -/
structure Reading where
  text : List Char
  /-- The text after it and the gap that follows it. -/
  cursor : Cursor
  /-- Whether that text is in a later line than the last word. -/
  atNewLine : Bool

/-- Reads the rest of a scalar, after a gap, in at most so many words. -/
def readWords? (inFlow : Bool) (least : Nat) :
    Nat → List Char → Gap → Cursor → Option Reading
  | 0, _, _, _ => none
  | n + 1, done, gap, cursor => do
    let finished : Reading := { text := done, cursor, atNewLine := gap.isBroken }
    if cursor.atDocumentMark || cursor.rest.head? == some '#' then return finished
    let word ← word? inFlow cursor.rest
    if word.isEmpty then return finished
    let done := done ++ gap.text ++ word
    let cursor := cursor.skip word.length
    let (gap, cursor') ← Gap.read? least cursor
    if cursor'.place = cursor.place || (!inFlow && cursor'.column < least) then
      return { text := done, cursor := cursor', atNewLine := gap.isBroken }
    readWords? inFlow least n done gap cursor'

/-- Reads a scalar whose later lines start at the given column or to the right of it. The bound is
above the number of characters to read. -/
def read? (inFlow : Bool) (least bound : Nat) (cursor : Cursor) : Option Reading :=
  readWords? inFlow least bound [] {} cursor

end PullCache.Yaml.Plain
