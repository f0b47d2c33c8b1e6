import PullCache.Pattern.Property.Case
import PullCache.Pattern.Property.Span

/-!
# Sets of characters

The sets that a pattern's classes stand for, built from spans of code points by the operations a
class may use. `CharSet.contains` decides membership; the operations are read off it.
-/

namespace PullCache.Pattern

/-- A set of code points. -/
inductive CharSet where
  | spans (table : List Span)
  | union (a b : CharSet)
  | inter (a b : CharSet)
  | diff (a b : CharSet)
  | symmDiff (a b : CharSet)
  | compl (a : CharSet)
  /-- With the letters that differ from a member in case only. -/
  | caseless (a : CharSet)
  /-- With the ASCII letters that differ from a member in case only. -/
  | asciiCaseless (a : CharSet)
deriving Repr, Inhabited

namespace CharSet

/-- The set without members. -/
def empty : CharSet := spans []

/-- The code points from one to another. -/
def range (least most : Nat) : CharSet := spans [{ least, most }]

/-- A single code point. -/
def single (c : Nat) : CharSet := range c c

/-- All code points. -/
def all : CharSet := range 0 0x10FFFF

/-- The other letter of a pair of ASCII letters. -/
def asciiVariants (c : Nat) : List Nat :=
  if 0x41 ≤ c && c ≤ 0x5A then [c + 0x20]
  else if 0x61 ≤ c && c ≤ 0x7A then [c - 0x20]
  else []

/-- Whether a code point is in the set. -/
def contains : CharSet → Nat → Bool
  | spans table, c => table.any (·.contains c)
  | union a b, c => a.contains c || b.contains c
  | inter a b, c => a.contains c && b.contains c
  | diff a b, c => a.contains c && !b.contains c
  | symmDiff a b, c => a.contains c != b.contains c
  | compl a, c => !a.contains c
  | caseless a, c => a.contains c || (Case.variants c).any a.contains
  | asciiCaseless a, c => a.contains c || (asciiVariants c).any a.contains

/-- A bound on the number of spans it takes to write the set out. -/
def weight : CharSet → Nat
  | spans table => table.length
  | union a b | symmDiff a b => a.weight + b.weight
  | inter a b | diff a b => max a.weight b.weight
  | compl a => a.weight + 1
  | caseless a | asciiCaseless a => a.weight

/-- Whether all members are ASCII, of the code points that fit a byte. -/
def isAscii (a : CharSet) : Bool :=
  (List.range 128).all fun i ↦ !a.contains (128 + i)

end CharSet

end PullCache.Pattern
