import TreeShell.Number.Digits
/-!
# Binary numbers of 64 bits

The numbers with a significand of 53 bits and an exponent between -1074 and 971, two infinities, two
zeros, and one value that is no number. `ofRatio` rounds a quotient to the nearest of them; a value halfway
between two goes to the one with the even significand, and what is too large goes to infinity.
-/

namespace TreeShell

/-- `finite n m e` stands for `m * 2 ^ e`, negated if `n`. The significand has 53 bits, or fewer with the
least exponent. -/
inductive Binary64 where
  | nan
  | infinity (negative : Bool)
  | finite (negative : Bool) (significand : Nat) (exponent : Int)
  deriving DecidableEq

namespace Binary64

open Number

def zero (negative : Bool) : Binary64 := finite negative 0 (-1074)

/-- A power of two on the side of a quotient where its exponent is natural: numerator or denominator. -/
def scale (num den : Nat) (exponent : Int) : Nat × Nat :=
  match exponent with
  | .ofNat e => (num * twoTo e, den)
  | .negSucc e => (num, den * twoTo (e + 1))

/-- The quotient to the nearest natural number, a half to the even neighbour. -/
def nearestEven (num den : Nat) : Nat :=
  let q := num / den
  let r := num % den
  if 2 * r < den then q
  else if den < 2 * r then q + 1
  else if q % 2 = 0 then q
  else q + 1

/-- The significand that `num / den` has with an exponent. -/
def significandAt (num den : Nat) (exponent : Int) : Nat :=
  let (n, d) := scale num den (-exponent)
  nearestEven n d

/-- The exponent with which `num / den` has 53 bits before the binary point, or the least one. -/
def exponentOf (num den : Nat) : Int :=
  let e : Int := (num.log2 : Int) - (den.log2 : Int) - 53
  let (n, d) := scale num den (-e)
  let e := if twoTo 53 ≤ n / d then e + 1 else e
  if e < -1074 then -1074 else e

/-- The nearest number to `num / den`. -/
def ofRatio (negative : Bool) (num den : Nat) : Binary64 :=
  if num = 0 ∨ den = 0 then zero negative
  else
    let e := exponentOf num den
    let m := significandAt num den e
    let (m, e) := if m = twoTo 53 then (twoTo 52, e + 1) else (m, e)
    if e > 971 then infinity negative else finite negative m e

/-- The nearest number to `num / den * 2 ^ exponent`. -/
def ofScaled (negative : Bool) (num den : Nat) (exponent : Int) : Binary64 :=
  let (n, d) := scale num den exponent
  ofRatio negative n d

/-- The nearest number to `digits * 10 ^ exponent`. Far outside the range the answer is known without the
power. -/
def ofDecimal (negative : Bool) (digits : Nat) (exponent : Int) : Binary64 :=
  if digits = 0 then zero negative
  else
    let magnitude : Int := (digits.log2 : Int) / 4 + exponent
    if magnitude > 400 then infinity negative
    else if (digits.log2 : Int) / 3 + 1 + exponent < -400 then zero negative
    else match exponent with
      | .ofNat e => ofRatio negative (digits * tenTo e) 1
      | .negSucc e => ofRatio negative digits (tenTo (e + 1))

def isZero : Binary64 → Bool
  | finite _ 0 _ => true
  | _ => false

def isInfinite : Binary64 → Bool
  | infinity _ => true
  | _ => false

def negate : Binary64 → Binary64
  | nan => nan
  | infinity n => infinity !n
  | finite n m e => finite (!n) m e

/-- The product of two numbers without sign, rounded once. -/
def times : Binary64 → Binary64 → Binary64
  | finite _ m e, finite _ m' e' => ofScaled false (m * m') 1 (e + e')
  | nan, _ => nan
  | _, nan => nan
  | _, _ => infinity false

/-- The quotient of two numbers without sign, rounded once; the divisor is not zero. -/
def dividedBy : Binary64 → Binary64 → Binary64
  | finite _ m e, finite _ m' e' => ofScaled false m m' (e - e')
  | finite _ _ _, infinity _ => zero false
  | infinity _, finite _ _ _ => infinity false
  | _, _ => nan

end Binary64

end TreeShell
