import PullCache.Pattern.Expr
import PullCache.Pattern.Property.Lookup
import PullCache.Text.Digit

/-!
# Reading patterns

The language of patterns: literals, `.`, classes, anchors, word boundaries, groups with and without
names, alternatives, repetitions, and flags that hold to the end of their group. There is neither
look-around nor a reference back to a group.

`Reader.read?` refuses a text that is no pattern, a pattern that nests more than 250 deep, one that
would match half of a character, and one that takes too much room once its repetitions are written
out.
-/

namespace PullCache.Pattern.Reader

open Text (hexValue? isCharNumber ofDecimal ofValues)

/-- The flags in force at a place of a pattern. -/
structure Flags where
  /-- `i`: letters match in either case. -/
  caseless : Bool := false
  /-- `m`: `^` and `$` match at every line. -/
  multiline : Bool := false
  /-- `s`: `.` matches a line feed too. -/
  dotAll : Bool := false
  /-- `R`: a line may end with a carriage return and a line feed. -/
  crlf : Bool := false
  /-- `u`: characters are those of Unicode. -/
  unicode : Bool := true
  /-- `x`: blanks and comments do not count. -/
  spaced : Bool := false
deriving DecidableEq, Repr

/-- A part of a pattern that has been read. -/
structure Part where
  expr : Expr
  /-- How deep it nests. -/
  nesting : Nat := 0
  /-- The bytes it takes written out. -/
  size : Nat := 0
  /-- Whether a repetition may follow it. -/
  repeatable : Bool := true

/-- The deepest nesting of a pattern. -/
def maxNesting : Nat := 250

/-- The most bytes a pattern may take. -/
def maxSize : Nat := 10 * 1024 * 1024

/-- The bytes of one state. -/
def stateSize : Nat := 32

/-- The bytes of a set that takes so many spans. -/
def setSize (weight : Nat) : Nat := stateSize + 26 * weight

/-! ### Blanks -/

/-- Whether a character is a blank or a line break. -/
def isBlank (c : Char) : Bool :=
  Property.whiteSpace.any (·.contains c.toNat)

/-- Leaves out blanks and comments; the flag says whether a comment has begun. -/
def dropBlanks : Bool → List Char → List Char
  | _, [] => []
  | true, c :: cs => dropBlanks (c != '\n') cs
  | false, c :: cs => if isBlank c then dropBlanks false cs else
    if c = '#' then dropBlanks true cs else c :: cs

/-- Leaves out blanks and comments where they do not count. -/
def Flags.skip (f : Flags) (text : List Char) : List Char :=
  if f.spaced then dropBlanks false text else text

/-! ### Escapes -/

/-- What an escape stands for. -/
inductive Atom where
  /-- A character; the flag says whether it was written as the two digits of a byte. -/
  | literal (c : Nat) (asByte : Bool)
  | set (s : CharSet)
  | assertion (a : Assertion)

/-- The character of some hexadecimal digits. -/
def scalar? (digits : List Nat) : Option Nat :=
  let n := ofValues 16 digits
  if isCharNumber n then some n else none

/-- Reads so many hexadecimal digits. -/
def hexDigits? (f : Flags) : Nat → List Char → Option (List Nat × List Char)
  | 0, text => some ([], text)
  | n + 1, c :: cs => do
    let digit ← hexValue? c
    let (digits, rest) ← hexDigits? f n (f.skip cs)
    return (digit :: digits, rest)
  | _ + 1, [] => none

/-- Reads hexadecimal digits up to a closing brace. -/
def bracedDigits? (text : List Char) : Option (List Nat) :=
  if text.isEmpty then none else text.mapM hexValue?

/-- The text before a closing brace, and the text after it. -/
def braced? (f : Flags) (text : List Char) : Option (List Char × List Char) :=
  let spaced := fun (cs : List Char) ↦
    if f.spaced then cs.filter fun c ↦ !isBlank c else cs
  match text.dropWhile (· != '}') with
  | [] => none
  | _ :: rest => some (spaced (text.takeWhile (· != '}')), rest)

/-- Reads what follows `\x`, `\u` or `\U`, which take so many digits without braces. -/
def hexEscape? (f : Flags) (size : Nat) (text : List Char) : Option (Atom × List Char) :=
  match f.skip text with
  | '{' :: cs => do
    let (inner, rest) ← braced? f cs
    let c ← scalar? (← bracedDigits? inner)
    return (.literal c false, f.skip rest)
  | text => do
    let (digits, rest) ← hexDigits? f size text
    return (.literal (← scalar? digits) (size == 2), rest)

/-- Folds and negates a set as a class does. Where characters are bytes, a set of other characters
than ASCII could match half of one. -/
def Flags.finish? (f : Flags) (negated : Bool) (s : CharSet) : Option CharSet :=
  let s := if f.caseless then (if f.unicode then .caseless s else .asciiCaseless s) else s
  let s := if negated then .compl s else s
  if f.unicode || s.isAscii then some s else none

/-- Reads what follows `\p` or `\P`. -/
def propertyEscape? (f : Flags) (negated : Bool) (text : List Char) :
    Option (Atom × List Char) :=
  if !f.unicode then none
  else
    match f.skip text with
    | '{' :: cs => do
      let (inner, rest) ← braced? f cs
      let s ← Property.ofText? inner
      return (.set (← f.finish? negated s), rest)
    | c :: cs => do
      let s ← Property.plain? (Property.canonicalName [c])
      return (.set (← f.finish? negated s), f.skip cs)
    | [] => none

/-- The set of digits, of blanks or of word characters. -/
def shorthand (f : Flags) : Char → Option CharSet
  | 'd' => some (if f.unicode then .spans Category.decimalNumber else .range 0x30 0x39)
  | 's' => some (if f.unicode then .spans Property.whiteSpace
      else .union (.range 0x09 0x0D) (.single 0x20))
  | 'w' => some (if f.unicode then .spans Property.word
      else .union (.union (.range 0x30 0x39) (.range 0x41 0x5A))
        (.union (.single 0x5F) (.range 0x61 0x7A)))
  | _ => none

/-- The characters with a meaning of their own. -/
def isMeta (c : Char) : Bool :=
  "\\.+*?()|[]\x7b\x7d^$#&-~".toList.contains c

/-- Whether a backslash before a character is allowed and means nothing. -/
def isEscapable (c : Char) : Bool :=
  isMeta c || (c.toNat < 0x80 && !c.isAlphanum && c != '<' && c != '>')

/-- The control character that a letter stands for. -/
def controlEscape? : Char → Option Nat
  | 'a' => some 0x07
  | 'f' => some 0x0C
  | 't' => some 0x09
  | 'n' => some 0x0A
  | 'r' => some 0x0D
  | 'v' => some 0x0B
  | _ => none

/-- Reads what may follow `\b`: the name of one side of a word, in braces. A brace before anything
but a letter or a hyphen is left to be a repetition. -/
def wordAssertion? (f : Flags) (text : List Char) : Option (Assertion × List Char) :=
  let isNameChar (c : Char) : Bool := c.isAlpha || c == '-'
  match text with
  | '{' :: cs =>
    match f.skip cs with
    | [] => none
    | c :: rest =>
      if !isNameChar c then some (.wordBoundary f.unicode, text)
      else
        match braced? f (c :: rest) with
        | none => none
        | some (name, rest) =>
          if name = "start".toList then some (.wordStart f.unicode, rest)
          else if name = "end".toList then some (.wordEnd f.unicode, rest)
          else if name = "start-half".toList then some (.noWordBefore f.unicode, rest)
          else if name = "end-half".toList then some (.noWordAfter f.unicode, rest)
          else none
  | _ => some (.wordBoundary f.unicode, text)

/-- Reads an escape after its backslash. -/
def escape? (f : Flags) : List Char → Option (Atom × List Char)
  | [] => none
  | 'x' :: cs => hexEscape? f 2 cs
  | 'u' :: cs => hexEscape? f 4 cs
  | 'U' :: cs => hexEscape? f 8 cs
  | 'p' :: cs => propertyEscape? f false cs
  | 'P' :: cs => propertyEscape? f true cs
  | 'A' :: cs => some (.assertion .textStart, cs)
  | 'z' :: cs => some (.assertion .textEnd, cs)
  | 'b' :: cs => (wordAssertion? f cs).map fun (a, rest) ↦ (.assertion a, rest)
  | 'B' :: cs => some (.assertion (.noWordBoundary f.unicode), cs)
  | '<' :: cs => some (.assertion (.wordStart f.unicode), cs)
  | '>' :: cs => some (.assertion (.wordEnd f.unicode), cs)
  | c :: cs =>
    if isEscapable c then some (.literal c.toNat false, cs)
    else
      match shorthand f c, shorthand f c.toLower, controlEscape? c with
      | some s, _, _ => some (.set s, cs)
      | none, some s, _ => if f.unicode then some (.set (.compl s), cs) else none
      | none, none, some n => some (.literal n false, cs)
      | none, none, none => none

/-! ### Classes -/

/-- A set that is part of a class, and how deep it nests. -/
structure ClassPart where
  set : CharSet
  nesting : Nat := 0

/-- The operations between the parts of a class. -/
inductive ClassOp where
  | inter
  | diff
  | symmDiff

/-- A class that is being read. -/
structure ClassState where
  /-- What stands before the last operation, and the operation. -/
  left : Option (ClassPart × ClassOp) := none
  /-- The items since then, last first. -/
  items : List ClassPart := []

/-- All items of one side of an operation. -/
def ClassState.union (s : ClassState) : ClassPart :=
  match s.items with
  | [] => { set := .empty }
  | [item] => item
  | items =>
    { set := items.foldl (fun set item ↦ .union item.set set) .empty
      nesting := (items.map ClassPart.nesting).foldl max 0 + 1 }

/-- Both sides of the last operation together. Where letters match in either case, they do so on
each side. -/
def ClassState.value (f : Flags) (s : ClassState) : ClassPart :=
  let fold (set : CharSet) : CharSet :=
    if f.caseless then (if f.unicode then .caseless set else .asciiCaseless set) else set
  let right := s.union
  match s.left with
  | none => right
  | some (left, op) =>
    let a := fold left.set
    let b := fold right.set
    { set := match op with
        | .inter => .inter a b
        | .diff => .diff a b
        | .symmDiff => .symmDiff a b
      nesting := max left.nesting right.nesting + 1 }

/-- The classes of ASCII that have names. -/
def namedClass? (name : List Char) : Option CharSet :=
  let digits := CharSet.range 0x30 0x39
  let upper := CharSet.range 0x41 0x5A
  let lower := CharSet.range 0x61 0x7A
  [("alnum", digits.union (upper.union lower)),
   ("alpha", upper.union lower),
   ("ascii", .range 0 0x7F),
   ("blank", (CharSet.single 0x09).union (.single 0x20)),
   ("cntrl", (CharSet.range 0 0x1F).union (.single 0x7F)),
   ("digit", digits),
   ("graph", .range 0x21 0x7E),
   ("lower", lower),
   ("print", .range 0x20 0x7E),
   ("punct", ((CharSet.range 0x21 0x2F).union (.range 0x3A 0x40)).union
     ((CharSet.range 0x5B 0x60).union (.range 0x7B 0x7E))),
   ("space", (CharSet.range 0x09 0x0D).union (.single 0x20)),
   ("upper", upper),
   ("word", (digits.union (.single 0x5F)).union (upper.union lower)),
   ("xdigit", digits.union ((CharSet.range 0x41 0x46).union (.range 0x61 0x66)))].lookup
    (String.ofList name)

/-- Reads a named class after its opening bracket: its name between colons, and a bracket. What
only looks like one is `none`, and is read otherwise. -/
def asciiClass? (text : List Char) : Option (CharSet × Bool × List Char) :=
  match text with
  | ':' :: cs =>
    let (negated, cs) := match cs with
      | '^' :: cs => (true, cs)
      | cs => (false, cs)
    match cs.dropWhile (· != ':') with
    | ':' :: ']' :: rest =>
      (namedClass? (cs.takeWhile (· != ':'))).map fun set ↦ (set, negated, rest)
    | _ => none
  | _ => none

/-- A character as it may stand in a class; a byte only if it is ASCII. -/
def Flags.classLiteral? (f : Flags) (c : Nat) : Option Nat :=
  if f.unicode || c < 0x80 then some c else none

/-- Reads one item of a class, without a range. -/
def classAtom? (f : Flags) : List Char → Option (Atom × List Char)
  | [] => none
  | '\\' :: cs => escape? f cs
  | c :: cs => some (.literal c.toNat false, cs)

/-- Reads an item of a class: a character, an escape or a range. A hyphen before a bracket or
another hyphen is no range. -/
def classItem? (f : Flags) (text : List Char) : Option (ClassPart × List Char) := do
  let (first, rest) ← classAtom? f text
  let rest := f.skip rest
  let single : Option (ClassPart × List Char) :=
    match first with
    | .literal c _ => (f.classLiteral? c).map fun c ↦ ({ set := .single c }, rest)
    | .set s => some ({ set := s }, rest)
    | .assertion _ => none
  match rest with
  | '-' :: after =>
    match f.skip after with
    | ']' :: _ | '-' :: _ => single
    | [] => none
    | after => do
      let (last, rest) ← classAtom? f after
      match first, last with
      | .literal a _, .literal b _ => do
        let a ← f.classLiteral? a
        let b ← f.classLiteral? b
        if a ≤ b then some ({ set := .range a b }, rest) else none
      | _, _ => none
  | [] => none
  | _ => single

/-- Reads what a class begins with after its bracket: whether it is negated, and the hyphens or
the bracket that stand for themselves there. -/
def classStart? (f : Flags) (text : List Char) : Option (Bool × ClassState × List Char) :=
  let text := f.skip text
  let (negated, text) := match text with
    | '^' :: cs => (true, f.skip cs)
    | cs => (false, cs)
  let rec hyphens (items : List ClassPart) : List Char → List ClassPart × List Char
    | '-' :: cs => hyphens ({ set := .single 0x2D } :: items) cs
    | c :: cs =>
      if f.spaced && isBlank c then hyphens items cs else (items, c :: cs)
    | [] => (items, [])
  let (items, text) := hyphens [] text
  match items, f.skip text with
  | _, [] => none
  | [], ']' :: cs =>
    match f.skip cs with
    | [] => none
    | cs => some (negated, { items := [{ set := .single 0x5D }] }, cs)
  | items, text => some (negated, { items }, text)

/-- Reads a class after its start, in at most so many steps; gives its set and the text after its
closing bracket. -/
def classRest? (f : Flags) : Nat → Bool → ClassState → List Char → Option (ClassPart × List Char)
  | 0, _, _, _ => none
  | fuel + 1, negated, state, text =>
    let operation (op : ClassOp) (rest : List Char) : Option (ClassPart × List Char) :=
      classRest? f fuel negated { left := some (state.value f, op) } rest
    match f.skip text with
    | [] => none
    | ']' :: rest => do
      let value := state.value f
      return ({ value with set := ← f.finish? negated value.set }, rest)
    | '[' :: rest =>
      match asciiClass? rest with
      | some (set, negates, rest) => do
        let set ← f.finish? negates set
        classRest? f fuel negated { state with items := { set } :: state.items } rest
      | none => do
        let (innerNegated, inner, rest) ← classStart? f rest
        let (part, rest) ← classRest? f fuel innerNegated inner rest
        let part := { part with nesting := part.nesting + 1 }
        classRest? f fuel negated { state with items := part :: state.items } rest
    | '&' :: '&' :: rest => operation .inter rest
    | '-' :: '-' :: rest => operation .diff rest
    | '~' :: '~' :: rest => operation .symmDiff rest
    | text => do
      let (item, rest) ← classItem? f text
      classRest? f fuel negated { state with items := item :: state.items } rest

/-- Reads a class after its opening bracket. -/
def class? (f : Flags) (text : List Char) : Option (Part × List Char) := do
  let (negated, state, rest) ← classStart? f text
  let (part, rest) ← classRest? f (text.length + 1) negated state rest
  return ({ expr := .chars part.set false
            nesting := part.nesting + 1
            size := setSize part.set.weight }, rest)

/-! ### Single parts -/

/-- A character that stands for itself. -/
def literal? (f : Flags) (c : Nat) (asByte : Bool) : Option Part :=
  if !f.unicode && asByte && 0x80 ≤ c then none
  else
    let set : CharSet :=
      if f.caseless then
        if f.unicode then .caseless (.single c) else .asciiCaseless (.single c)
      else .single c
    some { expr := .chars set false, size := stateSize }

/-- The part that an escape or a character of its own meaning is. -/
def Atom.part? (f : Flags) : Atom → Option Part
  | literal c asByte => literal? f c asByte
  | set s => some { expr := .chars s false, size := setSize s.weight }
  | assertion a => some { expr := .assertion a, size := stateSize }

/-- Any character, but for the ends of lines if they are not asked for. -/
def dot? (f : Flags) : Option Part :=
  if !f.unicode then none
  else
    let set : CharSet :=
      if f.dotAll then .all
      else if f.crlf then .compl (.union (.single 0x0A) (.single 0x0D))
      else .compl (.single 0x0A)
    some { expr := .chars set false, size := setSize 10 }

/-- The start of the text or of a line. -/
def startAnchor (f : Flags) : Assertion :=
  if f.multiline then (if f.crlf then .crlfLineStart else .lineStart) else .textStart

/-- The end of the text or of a line. -/
def endAnchor (f : Flags) : Assertion :=
  if f.multiline then (if f.crlf then .crlfLineEnd else .lineEnd) else .textEnd

/-! ### Repetitions -/

/-- The number that digits make, if it fits 32 bits. -/
def decimal? (f : Flags) (text : List Char) : Option (Option Nat × List Char) :=
  let text := text.dropWhile isBlank
  let rec digits (read : List Char) : List Char → List Char × List Char
    | c :: cs =>
      if c.isDigit then digits (c :: read) cs
      else if f.spaced && isBlank c && !read.isEmpty then digits read cs
      else (read.reverse, c :: cs)
    | [] => (read.reverse, [])
  let (ds, rest) := digits [] text
  let rest := rest.dropWhile isBlank
  if ds.isEmpty then some (none, rest)
  else
    let n := ofDecimal ds
    if n < Nat.pow 2 32 then some (some n, rest) else none

/-- Reads the bounds of a repetition after its brace. -/
def bounds? (f : Flags) (text : List Char) : Option ((Nat × Option Nat) × List Char) := do
  let (least, rest) ← decimal? f (f.skip text)
  let least ← least
  match rest with
  | '}' :: rest => some ((least, some least), rest)
  | ',' :: rest =>
    match f.skip rest with
    | '}' :: rest => some ((least, none), rest)
    | rest => do
      let (most, rest) ← decimal? f rest
      let most ← most
      match rest with
      | '}' :: rest => if least ≤ most then some ((least, some most), rest) else none
      | _ => none
  | _ => none

/-- A part that is repeated. -/
def Part.repeat? (p : Part) (least : Nat) (most : Option Nat) : Option Part :=
  let size := if p.expr.isWidthless then p.size + stateSize
    else
      match most with
      | none => p.size * max least 1 + stateSize
      | some most => p.size * most + stateSize * (most - least)
  if p.repeatable && size ≤ maxSize then
    some { expr := p.expr.repeated least most, nesting := p.nesting + 1, size }
  else none

/-! ### Groups -/

/-- What is being read: a group, or the whole pattern. -/
structure Level where
  flags : Flags
  /-- The alternatives that are complete, last first. -/
  branches : List Part := []
  /-- The parts of the alternative that is being read, last first. -/
  parts : List Part := []

/-- The parts of one alternative together. -/
def joinParts : List Part → Part
  | [] => { expr := .empty }
  | [part] => part
  | parts =>
    { expr := Expr.sequence (parts.reverse.map Part.expr)
      nesting := (parts.map Part.nesting).foldl max 0 + 1
      size := (parts.map Part.size).foldl (· + ·) 0 }

/-- The alternatives of a level together. -/
def Level.value (l : Level) : Part :=
  match joinParts l.parts, l.branches with
  | part, [] => part
  | part, branches =>
    let all := part :: branches
    { expr := Expr.choice (all.reverse.map Part.expr)
      nesting := (all.map Part.nesting).foldl max 0 + 1
      size := (all.map Part.size).foldl (· + ·) 0 + stateSize }

/-- Adds a part to the alternative that is being read. -/
def Level.push (l : Level) (p : Part) : Level :=
  { l with parts := p :: l.parts }

/-- A pattern as far as it has been read: the innermost level, those around it, and the names of
groups. -/
structure State where
  level : Level
  outer : List Level := []
  names : List (List Char) := []

/-- Sets or clears a flag. -/
def setFlag? (f : Flags) (on : Bool) : Char → Option Flags
  | 'i' => some { f with caseless := on }
  | 'm' => some { f with multiline := on }
  | 's' => some { f with dotAll := on }
  | 'R' => some { f with crlf := on }
  | 'u' => some { f with unicode := on }
  | 'x' => some { f with spaced := on }
  -- Which of several matches is found makes no difference to whether there is one.
  | 'U' => some f
  | _ => none

/-- Reads flags up to a colon or a closing parenthesis, which is given too. No flag and no minus
may stand twice, nor a minus last. -/
def flags? (f : Flags) (seen : List Char) :
    List Char → Option (Flags × List Char × Char × List Char)
  | [] => none
  | c :: cs =>
    if c = ':' ∨ c = ')' then
      if seen.head? = some '-' then none else some (f, seen, c, cs)
    else if seen.contains c then none
    else if c = '-' then flags? f (c :: seen) cs
    else do
      let f ← setFlag? f (!seen.contains '-') c
      flags? f (c :: seen) cs

/-- Whether a name of a group may start with a character. -/
def isNameStart (c : Char) : Bool :=
  c == '_' || Property.alphabetic.any (·.contains c.toNat)

/-- Whether a name of a group may go on with a character. -/
def isNameChar (c : Char) : Bool :=
  isNameStart c || c == '.' || c == '[' || c == ']' ||
    Category.number.any (·.contains c.toNat)

/-- Reads the name of a group up to the closing angle bracket. -/
def groupName? (text : List Char) : Option (List Char × List Char) :=
  let name := text.takeWhile (· != '>')
  match name, text.dropWhile (· != '>') with
  | c :: cs, _ :: rest => if isNameStart c && cs.all isNameChar then some (name, rest) else none
  | _, _ => none

/-- Opens a group with the given flags. -/
def State.open (s : State) (f : Flags) : State :=
  { s with level := { flags := f }, outer := s.level :: s.outer }

/-- Reads what follows an opening parenthesis. -/
def openGroup? (s : State) (text : List Char) : Option (State × List Char) :=
  let f := s.level.flags
  let named (text : List Char) : Option (State × List Char) := do
    let (name, rest) ← groupName? text
    if s.names.contains name then none
    else some ({ s.open f with names := name :: s.names }, rest)
  match f.skip text with
  | '?' :: '=' :: _ | '?' :: '!' :: _ | '?' :: '<' :: '=' :: _ | '?' :: '<' :: '!' :: _ => none
  | '?' :: 'P' :: '<' :: rest => named rest
  | '?' :: '<' :: rest => named rest
  | '?' :: rest => do
    let (flags, seen, last, rest) ← flags? f [] rest
    if last = ':' then some (s.open flags, rest)
    else if seen.isEmpty then none
    else
      some ({ s with level := { s.level.push { expr := .empty, repeatable := false } with flags } },
        rest)
  | rest => some (s.open f, rest)

/-- Closes the innermost group. -/
def State.close? (s : State) : Option State :=
  match s.outer with
  | [] => none
  | outer :: rest =>
    let inner := s.level.value
    some { s with
      level := outer.push
        { expr := inner.expr, nesting := inner.nesting + 1, size := inner.size + 2 * stateSize }
      outer := rest }

/-- Reads one part of a pattern that is not at its end. -/
def step? (s : State) (text : List Char) : Option (State × List Char) :=
  let f := s.level.flags
  let push (part : Part) : State := { s with level := s.level.push part }
  let repeatLast (least : Nat) (most : Option Nat) (rest : List Char) :
      Option (State × List Char) :=
    match s.level.parts with
    | [] => none
    | last :: before => do
      let part ← last.repeat? least most
      return ({ s with level := { s.level with parts := part :: before } },
        match rest with
        | '?' :: rest => rest
        | rest => rest)
  match text with
  | [] => none
  | '(' :: rest => openGroup? s rest
  | ')' :: rest => s.close?.map fun s ↦ (s, rest)
  | '|' :: rest =>
    some ({ s with level := { s.level with
      branches := joinParts s.level.parts :: s.level.branches, parts := [] } }, rest)
  | '[' :: rest => (class? f rest).map fun (part, rest) ↦ (push part, rest)
  | '?' :: rest => repeatLast 0 (some 1) rest
  | '*' :: rest => repeatLast 0 none rest
  | '+' :: rest => repeatLast 1 none rest
  | '{' :: rest => do
    let ((least, most), rest) ← bounds? f rest
    repeatLast least most (f.skip rest)
  | '\\' :: rest => do
    let (atom, rest) ← escape? f rest
    return (push (← atom.part? f), rest)
  | '.' :: rest => (dot? f).map fun part ↦ (push part, rest)
  | '^' :: rest => (Atom.assertion (startAnchor f)).part? f |>.map fun part ↦ (push part, rest)
  | '$' :: rest => (Atom.assertion (endAnchor f)).part? f |>.map fun part ↦ (push part, rest)
  | c :: rest => (literal? f c.toNat false).map fun part ↦ (push part, rest)

/-- Reads a pattern in at most so many steps. -/
def run? : Nat → State → List Char → Option State
  | 0, _, _ => none
  | fuel + 1, s, text =>
    match s.level.flags.skip text with
    | [] => some s
    | text => do
      let (s, rest) ← step? s text
      run? fuel s rest

/-- Reads a pattern. Each step reads at least one character, so there are no more of them. -/
def read? (text : String) : Option Expr := do
  let s ← run? (text.length + 1) { level := { flags := {} } } text.toList
  let part := s.level.value
  if s.outer.isEmpty && part.nesting ≤ maxNesting && part.size ≤ maxSize then some part.expr
  else none

end PullCache.Pattern.Reader
