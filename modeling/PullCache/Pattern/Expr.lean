import PullCache.Pattern.CharSet
import PullCache.Pattern.Property.Binary

/-!
# Expressions and where they occur

An expression carries marks: a character set is marked when the last character read was taken by
it. Reading a character moves the marks (`Expr.advance`), so all ways an expression can match are
followed at once and the work for each character is linear in the expression, with no set of states
to keep. An assertion looks at the characters around the place it stands at.
-/

namespace PullCache.Pattern

/-- A place in a text, by the characters on its two sides. -/
structure Place where
  before : Option Char
  after : Option Char
deriving DecidableEq, Repr

/-- What is asked of a place. The flag of a word assertion says whether words are those of Unicode
or of ASCII. -/
inductive Assertion where
  | textStart
  | textEnd
  | lineStart
  | lineEnd
  /-- The start of a line where a carriage return before a line feed is part of the line's end. -/
  | crlfLineStart
  | crlfLineEnd
  | wordBoundary (unicode : Bool)
  | noWordBoundary (unicode : Bool)
  | wordStart (unicode : Bool)
  | wordEnd (unicode : Bool)
  | noWordBefore (unicode : Bool)
  | noWordAfter (unicode : Bool)
deriving DecidableEq, Repr

/-- Whether a character is part of a word. -/
def isWordChar (unicode : Bool) (c : Char) : Bool :=
  if unicode then Property.word.any (·.contains c.toNat) else c.isAlphanum || c == '_'

/-- Whether an assertion holds at a place. -/
def Assertion.holds (p : Place) : Assertion → Bool
  | textStart => p.before.isNone
  | textEnd => p.after.isNone
  | lineStart => p.before.isNone || p.before == some '\n'
  | lineEnd => p.after.isNone || p.after == some '\n'
  | crlfLineStart =>
    p.before.isNone || p.before == some '\n' || (p.before == some '\r' && p.after != some '\n')
  | crlfLineEnd =>
    p.after.isNone || p.after == some '\r' || (p.after == some '\n' && p.before != some '\r')
  | wordBoundary u => p.before.any (isWordChar u) != p.after.any (isWordChar u)
  | noWordBoundary u => p.before.any (isWordChar u) == p.after.any (isWordChar u)
  | wordStart u => !p.before.any (isWordChar u) && p.after.any (isWordChar u)
  | wordEnd u => p.before.any (isWordChar u) && !p.after.any (isWordChar u)
  | noWordBefore u => !p.before.any (isWordChar u)
  | noWordAfter u => !p.after.any (isWordChar u)

/-- A pattern's expression, with its marks. -/
inductive Expr where
  | empty
  /-- One character of a set; marked when it took the last character. -/
  | chars (set : CharSet) (marked : Bool)
  | assertion (a : Assertion)
  | seq (p q : Expr)
  | alt (p q : Expr)
  /-- Any number of times. -/
  | star (p : Expr)
deriving Repr, Inhabited

namespace Expr

/-- Whether the expression matches the empty text at a place. -/
def matchesEmpty (here : Place) : Expr → Bool
  | empty => true
  | chars _ _ => false
  | assertion a => a.holds here
  | seq p q => p.matchesEmpty here && q.matchesEmpty here
  | alt p q => p.matchesEmpty here || q.matchesEmpty here
  | star _ => true

/-- Whether the marks say that a match ends at a place. -/
def endsAt (here : Place) : Expr → Bool
  | empty => false
  | chars _ marked => marked
  | assertion _ => false
  | seq p q => (p.endsAt here && q.matchesEmpty here) || q.endsAt here
  | alt p q => p.endsAt here || q.endsAt here
  | star p => p.endsAt here

/-- Reads the character after a place. `entered` says whether a match may begin there. -/
def advance (here : Place) (c : Char) : Bool → Expr → Expr
  | _, empty => empty
  | entered, chars set _ => chars set (entered && set.contains c.toNat)
  | _, assertion a => assertion a
  | entered, seq p q =>
    seq (p.advance here c entered)
      (q.advance here c ((entered && p.matchesEmpty here) || p.endsAt here))
  | entered, alt p q => alt (p.advance here c entered) (q.advance here c entered)
  | entered, star p => star (p.advance here c (entered || p.endsAt here))

/-- Whether a match ends at some place of the text that is left, where a match may begin at any
place. -/
def occursAfter (e : Expr) (before : Option Char) : List Char → Bool
  | [] => e.matchesEmpty ⟨before, none⟩ || e.endsAt ⟨before, none⟩
  | c :: cs =>
    let here : Place := ⟨before, some c⟩
    e.matchesEmpty here || e.endsAt here || occursAfter (e.advance here c true) (some c) cs

/-- Whether an expression without marks matches some part of a text. -/
def occursIn (e : Expr) (text : List Char) : Bool :=
  e.occursAfter none text

/-! ### Building -/

/-- One after the other. -/
def sequence (parts : List Expr) : Expr :=
  match parts.reverse with
  | [] => empty
  | last :: before => before.foldl (fun tail part ↦ seq part tail) last

/-- One or the other. -/
def choice (branches : List Expr) : Expr :=
  match branches.reverse with
  | [] => empty
  | last :: before => before.foldl (fun tail branch ↦ alt branch tail) last

/-- Whether the expression matches nothing but the empty text. -/
def isWidthless : Expr → Bool
  | empty | assertion _ => true
  | chars _ _ => false
  | seq p q | alt p q => p.isWidthless && q.isWidthless
  | star p => p.isWidthless

/-- So many copies, one after the other, as a tree of no great height. The first number bounds its
height. -/
def copies (e : Expr) : Nat → Nat → Expr
  | 0, _ => empty
  | height + 1, n =>
    if n = 0 then empty
    else if n = 1 then e
    else
      let half := copies e height (n / 2)
      if n % 2 = 0 then seq half half else seq (seq half half) e

/-- At least and at most so many times. -/
def repeated (e : Expr) (least : Nat) (most : Option Nat) : Expr :=
  if e.isWidthless then if least = 0 then alt e empty else e
  else
    let required := copies e least least
    match most with
    | none => if least = 0 then star e else seq required (star e)
    | some most =>
      let optional := copies (alt e empty) (most - least) (most - least)
      if least = 0 then optional else seq required optional

end Expr

end PullCache.Pattern
