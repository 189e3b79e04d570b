import TreeShell.Document
import TreeShell.Number.Digits
/-!
# Numbers in JSON

An integer that fits into 64 bits is kept as it is. Any other number becomes the quotient or product of
two binary numbers: its leading digits, as many as fit into 64 bits, and a power of ten. A number too large
for that has no value.
-/

namespace TreeShell.Json

open Number

/-- Adds digits to a number as long as it stays below `2 ^ 64`: the number and the digits left over. -/
def gather (n : Nat) : List Char → Nat × List Char
  | [] => (n, [])
  | c :: cs => if n * 10 + digitValue c < twoTo 64 then gather (n * 10 + digitValue c) cs else (n, c :: cs)

/-- The largest power of ten that is a binary number. -/
def greatestPower : Nat := 308

def power (n : Nat) : Binary64 := .ofDecimal false 1 n

/-- A 64-bit integer times a power of ten, in one rounded operation if the power is a binary number. -/
def scaled (n : Nat) (exponent : Int) : Binary64 :=
  let x := Binary64.ofRatio false n 1
  match exponent with
  | .ofNat e =>
    if e ≤ greatestPower then x.times (power e)
    else if x.isZero then x
    else .infinity false
  | .negSucc e =>
    let e := e + 1
    if e ≤ greatestPower then x.dividedBy (power e)
    else if e ≤ 2 * greatestPower then (x.dividedBy (power greatestPower)).dividedBy (power (e - greatestPower))
    else .zero false

/-- The parts of a number: its sign, the digits before and behind the point, and the exponent. -/
structure Numeral where
  negative : Bool
  whole : List Char
  fraction : Option (List Char)
  exponent : Option Int

namespace Numeral

/-- The number as a binary number. -/
def real (n : Numeral) : Document :=
  let (significand, extra) := gather 0 n.whole
  let fraction := n.fraction.getD []
  let (significand, unused) := gather significand fraction
  let exponent : Int := extra.length - (fraction.length - unused.length : Nat) + n.exponent.getD 0
  let x := scaled significand exponent
  if x.isInfinite then .unreadable else .real (if n.negative then x.negate else x)

def isInteger (n : Numeral) : Bool := n.fraction.isNone && n.exponent.isNone

/-- The value of a number. A negative zero is a binary number, because no integer is one. -/
def value (n : Numeral) : Document :=
  let digits := ofDigits 10 n.whole
  if !n.isInteger then n.real
  else if !n.negative && digits < twoTo 64 then .natural digits
  else if n.negative && 0 < digits && digits ≤ twoTo 63 then .integer (-digits)
  else n.real

end Numeral

end TreeShell.Json
