/-!
# Decimal numbers

Numbers that formats and settings write with the digits `0` to `9`, and that a bound keeps in range.
-/

namespace PullTriage.Text

/-- The number below `bound` that some digits write.  There has to be a digit, and nothing else. -/
def decimalBelow? (bound : Nat) (digits : List Char) : Option Nat :=
  if digits.isEmpty || !digits.all Char.isDigit then none
  else
    let n := Nat.ofDigitChars 10 digits 0
    if n < bound then some n else none

end PullTriage.Text
