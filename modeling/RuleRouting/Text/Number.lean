/-!
# Reading unsigned numbers

`parseUnsigned s bound` reads a decimal number the way unsigned integer types read text: an
optional leading `+`, then one or more ASCII digits and nothing else, with a value at most
`bound`. Leading zeros are allowed.
-/

namespace RuleRouting.Text

/-- The value of a list of ASCII digits, if every character is one. -/
def digitsValue : List Char → Nat → Option Nat
  | [], acc => some acc
  | c :: cs, acc => if c.isDigit then digitsValue cs (acc * 10 + (c.toNat - '0'.toNat)) else none

/-- Reads an unsigned decimal number no greater than `bound`. -/
def parseUnsigned (s : String) (bound : Nat) : Option Nat :=
  let digits := match s.toList with
    | '+' :: rest => rest
    | cs => cs
  if digits.isEmpty then none
  else (digitsValue digits 0).filter (· ≤ bound)

/-- The largest 16-bit unsigned value. -/
def maxU16 : Nat := 65535

/-- The largest 64-bit unsigned value, the bound of a machine-sized index. -/
def maxUsize : Nat := Nat.pow 2 64 - 1

end RuleRouting.Text
