import PullCache.Yaml.Token.Basic

/-!
# The layout of a text

What the scanning of tokens keeps in mind: the columns of the open blocks, and for each level of
brackets the place where a key may have begun. That a key has begun is seen only at its colon. Then
its token is put in where it began, and a block is opened there if the key stands to the right of
the open ones.
-/

namespace PullCache.Yaml

/-- A place where a key may have begun. -/
structure Candidate where
  /-- How many tokens come before it. -/
  slot : Nat
  place : Place
  /-- Whether nothing but a key can stand there. -/
  required : Bool
deriving DecidableEq, Repr

/-- Whether a candidate can no longer turn out to be a key at a later place: the colon of a key must
follow in the same line, and not too far off. -/
def Candidate.isStale (candidate : Candidate) (place : Place) : Bool :=
  candidate.place.line < place.line || candidate.place.index + 1024 < place.index

/-- How far a text has been parted into tokens. -/
structure Layout where
  /-- More than the number of characters of the text. -/
  bound : Nat
  cursor : Cursor
  tokens : Array Token := #[]
  /-- The columns of the open blocks, the innermost first. -/
  columns : List Nat := []
  /-- Where a key may have begun within the innermost brackets. -/
  candidate : Option Candidate := none
  /-- The same for each level around them. -/
  outer : List (Option Candidate) := []
  /-- Whether a key may begin here. -/
  keyAllowed : Bool := true

namespace Layout

/-- Whether the text is inside brackets, where indentation does not count. -/
def inFlow (l : Layout) : Bool :=
  !l.outer.isEmpty

/-- The least column of what stands inside the innermost block. -/
def least (l : Layout) : Nat :=
  match l.columns with
  | [] => 0
  | column :: _ => column + 1

/-- Adds a token. -/
def push (l : Layout) (token : Token) : Layout :=
  { l with tokens := l.tokens.push token }

/-- Adds a token that is written with so many characters. -/
def pushPassing (l : Layout) (token : Token) (size : Nat) : Layout :=
  { l with cursor := l.cursor.skip size, tokens := l.tokens.push token }

/-! ### Blocks -/

/-- Opens a block at a column, unless one is open there; its token goes before the token of a
slot. -/
def openBlock (l : Layout) (token : Token) (column slot : Nat) : Layout :=
  if l.inFlow || column < l.least then l
  else
    { l with
      tokens := l.tokens.insertIdxIfInBounds slot token
      columns := column :: l.columns }

/-- Opens a block here, unless one is open at this column. -/
def openBlockHere (l : Layout) (token : Token) : Layout :=
  l.openBlock token l.cursor.column l.tokens.size

/-- The blocks that are left when those at a column or to the right of it close, and how many
do. -/
def splitColumns (column : Nat) : List Nat → List Nat × Nat
  | [] => ([], 0)
  | first :: columns =>
    if column ≤ first then
      let (columns, closed) := splitColumns column columns
      (columns, closed + 1)
    else (first :: columns, 0)

/-- Closes the blocks at a column or to the right of it. -/
def closeBlocks (l : Layout) (column : Nat) : Layout :=
  if l.inFlow then l
  else
    let (columns, closed) := splitColumns column l.columns
    { l with
      tokens := l.tokens ++ (List.replicate closed Token.closeBlock).toArray
      columns }

/-! ### Keys -/

/-- Gives up the candidate of this level; fails if it had to be a key. -/
def dropCandidate? (l : Layout) : Option Layout :=
  if l.candidate.any Candidate.required then none else some { l with candidate := none }

/-- Notes that a key may begin here. It must, if it stands where the keys of the block do. -/
def noteCandidate? (l : Layout) : Option Layout :=
  if l.keyAllowed then
    let candidate : Candidate :=
      { slot := l.tokens.size
        place := l.cursor.place
        required := !l.inFlow && l.columns.head? == some l.cursor.column }
    l.dropCandidate?.map fun l ↦ { l with candidate := some candidate }
  else some l

/-- Gives up the candidates that can be no keys any more; fails if one had to be a key. -/
def dropStale? (l : Layout) : Option Layout :=
  let isStale (candidate : Candidate) : Bool := candidate.isStale l.cursor.place
  let all := l.candidate :: l.outer
  if all.any (Option.any fun candidate ↦ isStale candidate && candidate.required) then none
  else
    let keep : Option Candidate → Option Candidate :=
      Option.filter fun candidate ↦ !isStale candidate
    some { l with candidate := keep l.candidate, outer := l.outer.map keep }

/-! ### White space -/

/-- Passes blanks, breaks and comments up to the next token, and tells whether a key may begin
there. Outside brackets it may in each new line; where it may, a tab is no blank. A mark of byte
order may stand at the start of a line. -/
def toToken (inFlow : Bool) : (keyAllowed inComment : Bool) → Place → List Char → Bool × Cursor
  | keyAllowed, _, place, [] => (keyAllowed, { place, rest := [] })
  | keyAllowed, _, place, '\r' :: '\n' :: rest =>
    toToken inFlow (keyAllowed || !inFlow) false (place.nextLine 2) rest
  | keyAllowed, inComment, place, c :: rest =>
    if isBreak c then toToken inFlow (keyAllowed || !inFlow) false (place.nextLine 1) rest
    else if inComment || c == '#' then toToken inFlow keyAllowed true (place.right 1) rest
    else if c == ' ' || (c == '\t' && (inFlow || !keyAllowed)) ||
        (c == '\ufeff' && place.column == 0) then
      toToken inFlow keyAllowed false (place.right 1) rest
    else (keyAllowed, { place, rest := c :: rest })

/-- Goes to the next token; closes the blocks that end before it. -/
def advance? (l : Layout) : Option Layout := do
  let (keyAllowed, cursor) := toToken l.inFlow l.keyAllowed false l.cursor.place l.cursor.rest
  let l ← ({ l with keyAllowed, cursor } : Layout).dropStale?
  return l.closeBlocks (l.cursor.column + 1)

end Layout

end PullCache.Yaml
