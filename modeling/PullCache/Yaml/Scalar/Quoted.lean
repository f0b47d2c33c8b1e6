import PullCache.Text.Digit
import PullCache.Yaml.Scalar.Gap

/-!
# Quoted scalars

Between single quotes a quote is written twice and nothing else has a meaning of its own. Between
double quotes a backslash begins an escape; before a break it joins two lines. Gaps are folded in
both. A quoted scalar may not go over a line that separates documents.
-/

namespace PullCache.Yaml.Quoted

/-- The two marks of quotation. -/
inductive Quote where
  | single
  | double
deriving DecidableEq, Repr

/-- The character of an escape of one letter. -/
def escape? : Char → Option Char
  | '0' => some '\x00'
  | 'a' => some '\x07'
  | 'b' => some '\x08'
  | 't' => some '\t'
  | '\t' => some '\t'
  | 'n' => some '\n'
  | 'v' => some '\x0b'
  | 'f' => some '\x0c'
  | 'r' => some '\r'
  | 'e' => some '\x1b'
  | ' ' => some ' '
  | '"' => some '"'
  | '/' => some '/'
  | '\\' => some '\\'
  | 'N' => some '\u0085'
  | '_' => some '\u00a0'
  | 'L' => some '\u2028'
  | 'P' => some '\u2029'
  | _ => none

/-- How many hexadecimal digits follow the letter of an escape by number. -/
def digits? : Char → Option Nat
  | 'x' => some 2
  | 'u' => some 4
  | 'U' => some 8
  | _ => none

/-- The character of some hexadecimal digits. -/
def ofDigits? (digits : List Char) : Option Char := do
  let n := Text.ofValues 16 (← digits.mapM Text.hexValue?)
  if Text.isCharNumber n then some (Char.ofNat n) else none

/-- Reads an escape after its backslash. -/
def readEscape? (cursor : Cursor) : Option (Char × Cursor) :=
  match cursor.rest with
  | [] => none
  | letter :: rest =>
    match digits? letter with
    | none => (escape? letter).map fun c ↦ (c, cursor.skip 1)
    | some n =>
      if rest.length < n then none
      else (ofDigits? (rest.take n)).map fun c ↦ (c, cursor.skip (n + 1))

/-- Reads the rest of a scalar in at most so many steps; what has been read stands last first. -/
def readRest? (quote : Quote) : Nat → List Char → Cursor → Option (List Char × Cursor)
  | 0, _, _ => none
  | n + 1, done, cursor =>
    if cursor.atDocumentMark then none
    else
      match quote, cursor.rest with
      | _, [] => none
      | .single, '\'' :: '\'' :: _ => readRest? quote n ('\'' :: done) (cursor.skip 2)
      | .single, '\'' :: _ => some (done.reverse, cursor.skip 1)
      | .double, '"' :: _ => some (done.reverse, cursor.skip 1)
      | .double, '\\' :: next =>
        if next.head?.any isBreak then do
          let (gap, cursor) ← Gap.readEscaped? (cursor.skip 1).takeBreak.2
          readRest? quote n (gap.text.reverse ++ done) cursor
        else do
          let (c, cursor) ← readEscape? (cursor.skip 1)
          readRest? quote n (c :: done) cursor
      | _, c :: _ =>
        if isBlank c || isBreak c then do
          let (gap, cursor) ← Gap.read? 0 cursor
          readRest? quote n (gap.text.reverse ++ done) cursor
        else readRest? quote n (c :: done) (cursor.skip 1)

/-- Reads a scalar after its opening quote; gives its text and what follows the closing quote. The
bound is above the number of characters to read. -/
def read? (quote : Quote) (bound : Nat) (cursor : Cursor) : Option (List Char × Cursor) :=
  readRest? quote bound [] cursor

end PullCache.Yaml.Quoted
