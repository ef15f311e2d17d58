/-!
# Hexadecimal digits
-/

namespace CompactAdjacency.Text

/-- The hexadecimal digits of a number. -/
def hexDigits (code : Nat) : List Char := Nat.toDigits 16 code

/-- The value of a hexadecimal digit in either case. -/
def hexDigit? (char : Char) : Option Nat :=
  if '0' ≤ char ∧ char ≤ '9' then some (char.toNat - '0'.toNat)
  else if 'a' ≤ char ∧ char ≤ 'f' then some (char.toNat - 'a'.toNat + 10)
  else if 'A' ≤ char ∧ char ≤ 'F' then some (char.toNat - 'A'.toNat + 10)
  else none

end CompactAdjacency.Text
