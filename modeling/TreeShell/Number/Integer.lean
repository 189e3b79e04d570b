import TreeShell.Number.Digits
/-!
# Integers of 64 bits in text

A decimal integer is an optional sign and digits; it is read if it lies between `-2 ^ 63` and
`2 ^ 63 - 1`.
-/

namespace TreeShell.Number

def fitsInt64 (i : Int) : Bool := -(twoTo 63 : Int) ≤ i && i < twoTo 63

/-- The integer that a text stands for. -/
def integer? (s : String) : Option Int :=
  let (negative, digits) := match s.toList with
    | '-' :: cs => (true, cs)
    | '+' :: cs => (false, cs)
    | cs => (false, cs)
  if digits.isEmpty || !digits.all Char.isDigit then none
  else
    let n : Int := ofDigits 10 digits
    let i := if negative then -n else n
    if fitsInt64 i then some i else none

end TreeShell.Number
