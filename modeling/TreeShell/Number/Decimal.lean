import TreeShell.Number.Binary64
import TreeShell.Number.Digits
/-!
# Decimal text of binary numbers

`Binary64.text` writes the fewest digits that read back, the nearest of them to the number and of two
equally near ones the larger, without an exponent: `0.0000001`, `1.5`, `10000000000000000`.
`Binary64.ofText?` reads a decimal with an optional sign, point and exponent, and the words `inf`,
`infinity` and `nan` in any case.
-/

namespace TreeShell.Binary64

open Number

/-! ## Writing -/

/-- The power of ten above a positive quotient: `10 ^ (k - 1) ≤ num / den < 10 ^ k`. -/
def decimalMagnitude (num den : Nat) : Int :=
  let k : Int := (digitCount num : Int) - (digitCount den : Int)
  let reached := match k with
    | .ofNat k => decide (den * tenTo k ≤ num)
    | .negSucc k => decide (den ≤ num * tenTo (k + 1))
  if reached then k + 1 else k

/-- The quotient in units of a power of ten, rounded down, and the remainder over its denominator. -/
def inUnits (num den : Nat) (exponent : Int) : Nat × Nat × Nat :=
  let (n, d) := match exponent with
    | .ofNat e => (num, den * tenTo e)
    | .negSucc e => (num * tenTo (e + 1), den)
  (n / d, n % d, d)

/-- Of the two neighbours of a number on a grid of decimals, the nearer one that reads back, and the larger
one if both are equally near. -/
def onGrid? (x : Binary64) (num den : Nat) (exponent : Int) : Option Nat :=
  let (below, rest, unit) := inUnits num den exponent
  let reads := fun digits => ofDecimal false digits exponent == x
  match reads below, reads (below + 1) with
  | true, true => some (if 2 * rest < unit then below else below + 1)
  | true, false => some below
  | false, true => some (below + 1)
  | false, false => none

/-- The shortest digits of a positive number, and the power of ten of their last one. A power of ten is
found as ten units of the grid below it. -/
def shortest (significand : Nat) (exponent : Int) : Nat × Int :=
  let (num, den) := scale significand 1 exponent
  let k := decimalMagnitude num den
  let x := finite false significand exponent
  let grids := (List.range 17).map fun (n : Nat) => k - ((n : Int) + 1)
  match grids.findSome? fun e => (onGrid? x num den e).map fun digits => (digits, e) with
  | some (digits, e) => if digits % 10 = 0 then (digits / 10, e + 1) else (digits, e)
  | none => ((inUnits num den (k - 17)).1, k - 17)

/-- Digits and the power of ten of the last one, without an exponent. -/
def positional (digits : Nat) (exponent : Int) : List Char :=
  let ds := decimalDigits digits
  match exponent with
  | .ofNat e => ds ++ List.replicate e '0'
  | .negSucc e =>
    let places := e + 1
    if places < ds.length then
      ds.take (ds.length - places) ++ '.' :: ds.drop (ds.length - places)
    else '0' :: '.' :: (List.replicate (places - ds.length) '0' ++ ds)

/-- The written form of a number. -/
def text : Binary64 → String
  | nan => "NaN"
  | infinity negative => if negative then "-inf" else "inf"
  | finite negative significand exponent =>
    let digits :=
      if significand = 0 then ['0']
      else
        let (d, e) := shortest significand exponent
        positional d e
    String.ofList (if negative then '-' :: digits else digits)

/-! ## Reading -/

/-- An optional sign and what follows it. -/
def takeSign : List Char → Bool × List Char
  | '-' :: cs => (true, cs)
  | '+' :: cs => (false, cs)
  | cs => (false, cs)

/-- The exponent behind a decimal: nothing at all is zero. -/
def readExponent? : List Char → Option Int
  | [] => some 0
  | c :: cs =>
    if c = 'e' ∨ c = 'E' then
      let (negative, digits) := takeSign cs
      if digits.isEmpty || !digits.all Char.isDigit then none
      else
        let n : Int := ofDigits 10 digits
        some (if negative then -n else n)
    else none

/-- A decimal without its sign: digits, of which some may stand behind a point, and an exponent. -/
def readUnsigned? (negative : Bool) (cs : List Char) : Option Binary64 :=
  let whole := cs.takeWhile Char.isDigit
  let rest := cs.dropWhile Char.isDigit
  let (fraction, rest) := match rest with
    | '.' :: rest => (rest.takeWhile Char.isDigit, rest.dropWhile Char.isDigit)
    | _ => ([], rest)
  if whole.isEmpty && fraction.isEmpty then none
  else (readExponent? rest).map fun e => ofDecimal negative (ofDigits 10 (whole ++ fraction)) (e - fraction.length)

/-- The number that a text stands for. -/
def ofText? (s : String) : Option Binary64 :=
  let (negative, cs) := takeSign s.toList
  match String.ofList (cs.map Char.toLower) with
  | "nan" => some nan
  | "inf" | "infinity" => some (infinity negative)
  | _ => readUnsigned? negative cs

end TreeShell.Binary64
