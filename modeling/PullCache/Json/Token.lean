import PullCache.Text.Digit

/-!
# JSON tokens

`Token.scan` parts a JSON text into its tokens. Where the text stops being JSON the list ends with
`Token.stray`. A string with an escaped surrogate that has no partner is a token without content:
its extent is known but it stands for no text.
-/

namespace PullCache.Json

open Text (hexValue? ofValues)

/-- A piece of a JSON text. -/
inductive Token where
  | openArray
  | closeArray
  | openObject
  | closeObject
  | comma
  | colon
  | null
  | bool (value : Bool)
  | num (literal : String)
  /-- A string; `none` when an escape in it is half a character. -/
  | str (content : Option String)
  /-- Text that begins no token. -/
  | stray
deriving DecidableEq, Repr

namespace Token

/-- The blanks of JSON. -/
def isBlank (c : Char) : Bool :=
  c == ' ' || c == '\n' || c == '\t' || c == '\r'

/-! ### Strings -/

/-- A character of a string, or the number that an escape gives, which may be a surrogate. -/
inductive Piece where
  | char (c : Char)
  | unit (n : Nat)
deriving DecidableEq, Repr

/-- The value of four hexadecimal digits. -/
def hexValue4? (a b c d : Char) : Option Nat :=
  ([a, b, c, d].mapM hexValue?).map (ofValues 16)

/-- The character of an escape of one letter. -/
def escape? : Char → Option Char
  | '"' => some '"'
  | '\\' => some '\\'
  | '/' => some '/'
  | 'b' => some '\x08'
  | 'f' => some '\x0c'
  | 'n' => some '\n'
  | 'r' => some '\r'
  | 't' => some '\t'
  | _ => none

/-- Reads a string after its opening quote; gives its pieces and the text after the closing one. -/
def scanPieces : List Char → Option (List Piece × List Char)
  | [] => none
  | '"' :: rest => some ([], rest)
  | '\\' :: 'u' :: a :: b :: c :: d :: rest => do
    let n ← hexValue4? a b c d
    let (pieces, rest) ← scanPieces rest
    return (.unit n :: pieces, rest)
  | '\\' :: letter :: rest => do
    let c ← escape? letter
    let (pieces, rest) ← scanPieces rest
    return (.char c :: pieces, rest)
  | c :: rest =>
    if c.toNat < 0x20 || c == '\\' then none
    else do
      let (pieces, rest) ← scanPieces rest
      return (.char c :: pieces, rest)

/-- The text that pieces make. A high surrogate must be followed by a low one and a low one led by
a high one. -/
def join? : List Piece → Option (List Char)
  | [] => some []
  | .char c :: rest => (join? rest).map (c :: ·)
  | .unit n :: rest =>
    if 0xD800 ≤ n ∧ n < 0xDC00 then
      match rest with
      | .unit m :: rest =>
        if 0xDC00 ≤ m ∧ m < 0xE000 then
          (join? rest).map (Char.ofNat (0x10000 + (n - 0xD800) * 0x400 + (m - 0xDC00)) :: ·)
        else none
      | _ => none
    else if 0xDC00 ≤ n ∧ n < 0xE000 then none
    else (join? rest).map (Char.ofNat n :: ·)

/-! ### Numbers -/

/-- One or more digits, and the text after them. -/
def scanDigits (text : List Char) : Option (List Char × List Char) :=
  match text.takeWhile Char.isDigit with
  | [] => none
  | digits => some (digits, text.dropWhile Char.isDigit)

/-- The integer part of a number: a single zero, or digits that start with another. -/
def scanInteger : List Char → Option (List Char × List Char)
  | '0' :: rest =>
    match rest with
    | c :: _ => if c.isDigit then none else some (['0'], rest)
    | [] => some (['0'], [])
  | text => scanDigits text

/-- The fraction of a number, if there is one. -/
def scanFraction : List Char → Option (List Char × List Char)
  | '.' :: rest => do
    let (digits, rest) ← scanDigits rest
    return ('.' :: digits, rest)
  | text => some ([], text)

/-- The exponent of a number, if there is one. -/
def scanExponent : List Char → Option (List Char × List Char)
  | [] => some ([], [])
  | e :: rest =>
    if e = 'e' ∨ e = 'E' then
      let (sign, rest) := match rest with
        | '+' :: rest => (['+'], rest)
        | '-' :: rest => (['-'], rest)
        | rest => ([], rest)
      do
        let (digits, rest) ← scanDigits rest
        return (e :: sign ++ digits, rest)
    else some ([], e :: rest)

/-- A number, and the text after it. -/
def scanNumber (text : List Char) : Option (List Char × List Char) := do
  let (sign, rest) := match text with
    | '-' :: rest => (['-'], rest)
    | rest => ([], rest)
  let (integer, rest) ← scanInteger rest
  let (fraction, rest) ← scanFraction rest
  let (exponent, rest) ← scanExponent rest
  return (sign ++ integer ++ fraction ++ exponent, rest)

/-! ### Texts -/

/-- The token at the start of a text that starts with no blank, and the text after it. -/
def scanOne : List Char → Token × List Char
  | '[' :: rest => (openArray, rest)
  | ']' :: rest => (closeArray, rest)
  | '{' :: rest => (openObject, rest)
  | '}' :: rest => (closeObject, rest)
  | ',' :: rest => (comma, rest)
  | ':' :: rest => (colon, rest)
  | 'n' :: 'u' :: 'l' :: 'l' :: rest => (null, rest)
  | 't' :: 'r' :: 'u' :: 'e' :: rest => (bool true, rest)
  | 'f' :: 'a' :: 'l' :: 's' :: 'e' :: rest => (bool false, rest)
  | '"' :: rest =>
    match scanPieces rest with
    | some (pieces, rest) => (str ((join? pieces).map String.ofList), rest)
    | none => (stray, [])
  | text =>
    match scanNumber text with
    | some (literal, rest) => (num (String.ofList literal), rest)
    | none => (stray, [])

/-- At most so many tokens of a text. -/
def scanUpTo : Nat → List Char → List Token
  | 0, _ => []
  | n + 1, text =>
    match text.dropWhile isBlank with
    | [] => []
    | c :: rest =>
      let (token, rest) := scanOne (c :: rest)
      if token = stray then [stray] else token :: scanUpTo n rest

/-- The tokens of a text. A token takes at least one character, so there are no more of them. -/
def scan (text : String) : List Token :=
  scanUpTo text.length text.toList

end Token

end PullCache.Json
