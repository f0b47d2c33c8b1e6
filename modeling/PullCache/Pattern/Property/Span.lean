/-!
# Spans of code points

A property of characters is given as a table of spans. In a table's text a span is written as in the
character database, `41..5A`, or `41` for a single code point; `100..12E/2` stands for every second
one, and `41..5A+20` for a span with a distance.
-/

namespace PullCache.Pattern

/-- The code points from `least` to `most`, each so many after the last. -/
structure Span where
  least : Nat
  most : Nat
  step : Nat := 1
deriving DecidableEq, Repr

namespace Span

/-- Whether a code point is in the span. -/
def contains (s : Span) (c : Nat) : Bool :=
  s.least ≤ c && c ≤ s.most && (c - s.least) % s.step == 0

/-- The value of a hexadecimal digit. -/
def hexValue (c : Char) : Nat :=
  if c.isDigit then c.toNat - '0'.toNat else c.toNat - 'A'.toNat + 10

/-- The value of hexadecimal digits. -/
def hexNumber (digits : List Char) : Nat :=
  digits.foldl (fun n c ↦ n * 16 + hexValue c) 0

/-- The text before a mark, and the text after it. -/
def cut (mark : Char) (text : List Char) : List Char × List Char :=
  (text.takeWhile (· != mark), (text.dropWhile (· != mark)).drop 1)

/-- Reads a span without a distance. -/
def read (text : List Char) : Span :=
  let (bounds, step) := cut '/' text
  let (least, most) := cut '.' bounds
  { least := hexNumber least
    most := if most.isEmpty then hexNumber least else hexNumber (most.drop 1)
    step := if step.isEmpty then 1 else hexNumber step }

/-- The entries of a table, which blanks and line breaks part. -/
def entries : List Char → List Char → List (List Char)
  | [], entry => if entry.isEmpty then [] else [entry.reverse]
  | c :: cs, entry =>
    if c = ' ' ∨ c = '\n' then
      if entry.isEmpty then entries cs [] else entry.reverse :: entries cs []
    else entries cs (c :: entry)

/-- The spans of a table. -/
def table (text : String) : List Span :=
  (entries text.toList []).map read

/-- The spans of a table with the distance of each. -/
def shiftedTable (text : String) : List (Span × Nat) :=
  (entries text.toList []).map fun entry ↦
    let (span, shift) := cut '+' entry
    (read span, hexNumber shift)

end Span

end PullCache.Pattern
