import PullCache.Yaml.Scalar.Block
import PullCache.Yaml.Scalar.Plain
import PullCache.Yaml.Scalar.Quoted
import PullCache.Yaml.Token.Layout

/-!
# Parting a text into tokens

`Token.scan?` takes one token after the other, as the characters at the place and the layout so far
decide. It refuses a text with a character that YAML does not have, or one in which some place
begins no token.
-/

namespace PullCache.Yaml

namespace Layout

/-! ### Lines of their own -/

/-- Closes all blocks before a line that stands outside of documents. -/
def leaveBlocks? (l : Layout) : Option Layout :=
  (l.closeBlocks 0).dropCandidate?.map fun l ↦ { l with keyAllowed := false }

/-- Takes a directive. -/
def takeDirective? (l : Layout) : Option Layout := do
  let l ← l.leaveBlocks?
  let (directive, cursor) ← Directive.read? (l.cursor.skip 1)
  return { l.push (.directive directive) with cursor }

/-- Takes a mark that separates documents. -/
def takeMark? (l : Layout) (token : Token) : Option Layout :=
  l.leaveBlocks?.map fun l ↦ l.pushPassing token 3

/-! ### Brackets -/

/-- Takes an opening bracket or brace, which may begin a key. -/
def takeOpening? (l : Layout) (token : Token) : Option Layout :=
  l.noteCandidate?.map fun l ↦
    { l.pushPassing token 1 with
      candidate := none
      outer := l.candidate :: l.outer
      keyAllowed := true }

/-- Takes a closing bracket or brace. -/
def takeClosing? (l : Layout) (token : Token) : Option Layout :=
  l.dropCandidate?.map fun l ↦
    let l := { l.pushPassing token 1 with keyAllowed := false }
    match l.outer with
    | [] => l
    | candidate :: outer => { l with candidate, outer }

/-- Takes a comma. -/
def takeComma? (l : Layout) : Option Layout :=
  l.dropCandidate?.map fun l ↦ { l.pushPassing .comma 1 with keyAllowed := true }

/-! ### Items, keys and values -/

/-- Takes the dash of an item. -/
def takeItem? (l : Layout) : Option Layout :=
  if !l.inFlow && !l.keyAllowed then none
  else
    (l.openBlockHere .openSequence).dropCandidate?.map fun l ↦
      { l.pushPassing .item 1 with keyAllowed := true }

/-- Takes the mark of a key. -/
def takeKey? (l : Layout) : Option Layout :=
  if !l.inFlow && !l.keyAllowed then none
  else
    (l.openBlockHere .openMapping).dropCandidate?.map fun l ↦
      { l.pushPassing .key 1 with keyAllowed := !l.inFlow }

/-- Takes the colon of a value, and finds its key. -/
def takeValue? (l : Layout) : Option Layout :=
  match l.candidate with
  | some candidate =>
    let l := { l with tokens := l.tokens.insertIdxIfInBounds candidate.slot .key }
    let l := l.openBlock .openMapping candidate.place.column candidate.slot
    some { l.pushPassing .value 1 with candidate := none, keyAllowed := false }
  | none =>
    if !l.inFlow && !l.keyAllowed then none
    else
      let l := l.openBlockHere .openMapping
      some { l.pushPassing .value 1 with keyAllowed := !l.inFlow }

/-! ### Nodes -/

/-- Takes an anchor, or an alias, by the name after its mark. -/
def takeName? (l : Layout) (token : List Char → Token) : Option Layout := do
  let l ← l.noteCandidate?
  let (name, cursor) := (l.cursor.skip 1).takeWhile isNameChar
  if name.isEmpty then none
  let next := cursor.rest.head?
  if !isGapOrEnd next && !next.any "?:,]\x7d%@`".toList.contains then none
  return { l.push (token name) with cursor, keyAllowed := false }

/-- Takes a tag. -/
def takeTag? (l : Layout) : Option Layout := do
  let l ← l.noteCandidate?
  let (tag, cursor) ← Tag.read? l.inFlow l.cursor
  return { l.push (.tag tag) with cursor, keyAllowed := false }

/-- Takes a block scalar, which is no key. -/
def takeBlockScalar? (l : Layout) (folded : Bool) : Option Layout := do
  let l ← l.dropCandidate?
  let (text, cursor) ← Block.read? folded l.least l.bound (l.cursor.skip 1)
  let token := Token.scalar (if folded then .folded else .literal) text
  return { l.push token with cursor, keyAllowed := true }

/-- Takes a quoted scalar. -/
def takeQuoted? (l : Layout) (quote : Quoted.Quote) : Option Layout := do
  let l ← l.noteCandidate?
  let (text, cursor) ← Quoted.read? quote l.bound (l.cursor.skip 1)
  return { l.push (.scalar .quoted text) with cursor, keyAllowed := false }

/-- Takes a plain scalar. -/
def takePlain? (l : Layout) : Option Layout := do
  let l ← l.noteCandidate?
  let reading ← Plain.read? l.inFlow l.least l.bound l.cursor
  return { l.push (.scalar .plain reading.text) with
    cursor := reading.cursor
    keyAllowed := reading.atNewLine }

/-! ### Steps -/

/-- Whether a character, followed by another, begins a plain scalar. -/
def beginsPlain (inFlow : Bool) (c : Char) (next : Option Char) : Bool :=
  !(isBlank c || isBreak c || "-?:,[]\x7b\x7d#&*!|>'\"%@`".toList.contains c) ||
    (c == '-' && !next.any isBlank) ||
    (!inFlow && (c == '?' || c == ':') && !isGapOrEnd next)

/-- Takes the token that begins with a character, which is followed by another perhaps. -/
def take? (l : Layout) (c : Char) (next : Option Char) : Option Layout :=
  let standsAlone := isGapOrEnd next
  if l.cursor.column = 0 ∧ c = '%' then l.takeDirective?
  else if l.cursor.atMark '-' then l.takeMark? .documentStart
  else if l.cursor.atMark '.' then l.takeMark? .documentEnd
  else if c = '[' then l.takeOpening? .openItems
  else if c = '{' then l.takeOpening? .openMembers
  else if c = ']' then l.takeClosing? .closeItems
  else if c = '}' then l.takeClosing? .closeMembers
  else if c = ',' then l.takeComma?
  else if c = '-' ∧ standsAlone then l.takeItem?
  else if c = '?' ∧ (l.inFlow ∨ standsAlone) then l.takeKey?
  else if c = ':' ∧ (l.inFlow ∨ standsAlone) then l.takeValue?
  else if c = '*' then l.takeName? .aliasOf
  else if c = '&' then l.takeName? .anchor
  else if c = '!' then l.takeTag?
  else if c = '|' ∧ !l.inFlow then l.takeBlockScalar? false
  else if c = '>' ∧ !l.inFlow then l.takeBlockScalar? true
  else if c = '\'' then l.takeQuoted? .single
  else if c = '"' then l.takeQuoted? .double
  else if beginsPlain l.inFlow c next then l.takePlain?
  else none

/-- Takes tokens to the end of the text, at most so many. -/
def run? : Nat → Layout → Option Layout
  | 0, _ => none
  | n + 1, l => do
    let l ← l.advance?
    match l.cursor.rest with
    | [] => (l.closeBlocks 0).dropCandidate?
    | c :: rest => run? n (← l.take? c rest.head?)

end Layout

/-- The tokens of a text. A token takes at least one character, so there are no more of them. -/
def Token.scan? (text : String) : Option (List Token) :=
  let chars := text.toList
  let bound := chars.length + 1
  if chars.all isAllowed then
    (Layout.run? bound { bound, cursor := { rest := chars } }).map fun l ↦ l.tokens.toList
  else none

end PullCache.Yaml
