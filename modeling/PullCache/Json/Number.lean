import PullCache.Text.Digit

/-!
# Written numbers

A JSON number keeps its digits; two questions are asked of them. Is it an integer of 64 bits? Only
digits are, perhaps after a minus sign: a fraction, an exponent and `-0` make a number of another
kind. And is it so large that the nearest binary64 number is infinite?
-/

namespace PullCache.Json.Number

open Text (ofDecimal)

/-- The least integer of so many bits. -/
def least (bits : Nat) : Int := -(Nat.pow 2 (bits - 1) : Nat)

/-- The greatest integer of so many bits. -/
def most (bits : Nat) : Int := (Nat.pow 2 (bits - 1) : Nat) - 1

/-- The integer of 64 bits that a number is, if it is written as one. -/
def integer? (literal : String) : Option Int :=
  match literal.toList with
  | '-' :: digits =>
    let n := ofDecimal digits
    if digits.all Char.isDigit && 0 < n && n ≤ Nat.pow 2 63 then some (-(n : Int)) else none
  | digits =>
    let n := ofDecimal digits
    if digits.all Char.isDigit && n < Nat.pow 2 64 then some (n : Int) else none

/-- The exponent part of a number: what follows the letter `e`. -/
def exponent (text : List Char) : Int :=
  match text with
  | '-' :: digits => -(ofDecimal digits : Int)
  | '+' :: digits => ofDecimal digits
  | digits => ofDecimal digits

/-- The least number that rounds to infinity. -/
def infinite : Nat := Nat.pow 2 1024 - Nat.pow 2 970

/-- Whether the nearest binary64 number is infinite. The magnitude is compared first, so a long
exponent is never raised to. -/
def overflows (literal : String) : Bool :=
  let text := if literal.toList.head? = some '-' then literal.toList.tail else literal.toList
  let significand := text.takeWhile fun c ↦ c != 'e' && c != 'E'
  let shift := exponent ((text.dropWhile fun c ↦ c != 'e' && c != 'E').tail)
  let whole := significand.takeWhile (· != '.')
  let fraction := (significand.dropWhile (· != '.')).tail
  let digits := (whole ++ fraction).dropWhile (· == '0')
  let scale := shift - fraction.length
  let magnitude := digits.length + scale
  if digits.isEmpty || magnitude < 309 then false
  else if 309 < magnitude then true
  else if 0 ≤ scale then infinite ≤ ofDecimal digits * Nat.pow 10 scale.toNat
  else infinite * Nat.pow 10 (-scale).toNat ≤ ofDecimal digits

end PullCache.Json.Number
