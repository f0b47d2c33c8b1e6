import PullCache.Text.Cut

/-!
# The grammar of image references

Recognisers for the parts of a reference, on lists of characters. All classes are ASCII: a letter
or digit outside it is refused by every one of them.

- A path component is lower-case words and digits, joined by one `.`, one or two `_`, or any
  number of `-`.
- A domain is dot-separated labels of letters, digits and inner hyphens, then perhaps `:` and
  digits.
- A tag has 1 to 128 letters, digits, `_`, `.` and `-`, and starts with neither `.` nor `-`.
- A digest is an algorithm, `:`, and at least 32 hexadecimal digits. An algorithm is words that
  start with a letter, joined by single `-`, `_`, `+` or `.`.
-/

namespace PullCache.Grammar

open Text (cutFirst components)

/-! ### Paths -/

/-- Lower-case ASCII letters and digits. -/
def isWordChar (c : Char) : Bool :=
  c.isLower || c.isDigit

/-- What has been read of a path component: nothing, a word, or the separator after a word. -/
inductive PathState where
  | start
  | word
  | dot
  | underscore
  | underscores
  | hyphens
deriving DecidableEq, Repr

/-- Reads one more character of a path component. A word may follow anything; a separator follows
a word, and only hyphens and a second underscore follow a separator. -/
def PathState.next (s : PathState) (c : Char) : Option PathState :=
  if isWordChar c then some .word
  else
    match s, c with
    | .word, '.' => some .dot
    | .word, '_' => some .underscore
    | .underscore, '_' => some .underscores
    | .word, '-' => some .hyphens
    | .hyphens, '-' => some .hyphens
    | _, _ => none

/-- Words joined by separators; a component ends with a word. -/
def isPathComponent (text : List Char) : Bool :=
  text.foldlM PathState.next .start == some .word

/-- Slash-separated path components. -/
def isPath (text : List Char) : Bool :=
  (components '/' text).all isPathComponent

/-! ### Domains -/

/-- Letters, digits and hyphens, with no hyphen at either end. -/
def isDomainLabel (text : List Char) : Bool :=
  text.all (fun c ↦ c.isAlphanum || c == '-') &&
    text.head?.any Char.isAlphanum && text.getLast?.any Char.isAlphanum

/-- Dot-separated labels. -/
def isHost (text : List Char) : Bool :=
  (components '.' text).all isDomainLabel

/-- One or more digits. -/
def isDigits (text : List Char) : Bool :=
  !text.isEmpty && text.all Char.isDigit

/-- A host, then perhaps a colon and digits. -/
def isDomain (text : List Char) : Bool :=
  match cutFirst ':' text with
  | some (host, digits) => isDigits digits && isHost host
  | none => isHost text

/-- Whether the text before the first slash is meant as a domain: it has a dot or a colon, or it
is `localhost`. -/
def looksLikeDomain (text : List Char) : Bool :=
  text.contains '.' || text.contains ':' || text == "localhost".toList

/-! ### Tags and digests -/

/-- A word character of a tag: an ASCII letter, a digit or an underscore. -/
def isTagStart (c : Char) : Bool :=
  c.isAlphanum || c == '_'

/-- 1 to 128 letters, digits, underscores, dots and hyphens, the first no dot or hyphen. -/
def isTag : List Char → Bool
  | [] => false
  | c :: cs =>
    isTagStart c && cs.all (fun d ↦ isTagStart d || d == '.' || d == '-') && cs.length ≤ 127

/-- Reads one more character of a digest algorithm; the state says whether a word has begun. -/
def algorithmNext (inWord : Bool) (c : Char) : Option Bool :=
  if c.isAlpha then some true
  else if inWord && c.isDigit then some true
  else if inWord && (c == '-' || c == '_' || c == '+' || c == '.') then some false
  else none

/-- Words that start with a letter, joined by single separators. -/
def isAlgorithm (text : List Char) : Bool :=
  text.foldlM algorithmNext false == some true

/-- A digit, or a letter from `a` to `f` in either case. -/
def isHexDigit (c : Char) : Bool :=
  c.isDigit || ('a' ≤ c && c ≤ 'f') || ('A' ≤ c && c ≤ 'F')

/-- An algorithm, a colon, and at least 32 hexadecimal digits. -/
def isDigest (text : List Char) : Bool :=
  match cutFirst ':' text with
  | some (algorithm, hex) => isAlgorithm algorithm && hex.all isHexDigit && 32 ≤ hex.length
  | none => false

end PullCache.Grammar
