/-!
# Digits

Digits and the numbers they stand for, as the formats of this library write and read them.
-/

namespace PullCache.Text

/-- A hexadecimal digit, in lower case. -/
def hexDigit (n : Nat) : Char :=
  if n < 10 then Char.ofNat ('0'.toNat + n) else Char.ofNat ('a'.toNat + (n - 10))

/-- The value of a hexadecimal digit, in either case. -/
def hexValue? (c : Char) : Option Nat :=
  if c.isDigit then some (c.toNat - '0'.toNat)
  else if 'a' ≤ c ∧ c ≤ 'f' then some (c.toNat - 'a'.toNat + 10)
  else if 'A' ≤ c ∧ c ≤ 'F' then some (c.toNat - 'A'.toNat + 10)
  else none

/-- The number whose digits in a base have the given values, the first counting most. -/
def ofValues (base : Nat) (values : List Nat) : Nat :=
  values.foldl (fun n value ↦ n * base + value) 0

/-- The number that decimal digits make. -/
def ofDecimal (digits : List Char) : Nat :=
  ofValues 10 (digits.map fun c ↦ c.toNat - '0'.toNat)

/-- Whether a number is that of a character. The surrogates are not, nor is what lies above all
characters. -/
def isCharNumber (n : Nat) : Bool :=
  n < 0xD800 || (0xE000 ≤ n && n ≤ 0x10FFFF)

end PullCache.Text
