/-!
# Numerals

An unsigned number is written as one or more decimal digits, with any number of leading zeros, and
may have a plus sign in front. Nothing else is a numeral: no minus sign, no blanks, and no digits
but the ten of ASCII.

## Main definitions

* `Numeral.value`: the number that digits stand for
* `Numeral.read?`: the number that a text stands for, if it is a numeral
-/

namespace TickTree.Numeral

/-- The number that decimal digits stand for. -/
def value (digits : List Char) : Nat :=
  digits.foldl (fun n c => 10 * n + (c.toNat - '0'.toNat)) 0

/-- A text without one plus sign in front. -/
def unsigned : List Char → List Char
  | '+' :: rest => rest
  | text => text

/-- The number that a text stands for, if it is a numeral. -/
def read? (text : List Char) : Option Nat :=
  let digits := unsigned text
  if digits ≠ [] ∧ digits.all Char.isDigit then some (value digits) else none

end TickTree.Numeral
