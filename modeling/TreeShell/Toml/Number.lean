import TreeShell.Document
import TreeShell.Number.Integer
/-!
# Numbers in TOML

Digits may be grouped by single underlines between them. An integer is decimal with an optional sign, or
hexadecimal, octal or binary without one, and has to fit into 64 bits. A decimal number has a fraction, an
exponent or both. Only a decimal integer part may not start with a superfluous zero.
-/

namespace TreeShell.Toml

open Number

/-- More digits of a row, each perhaps with an underline before it. -/
def moreDigits (isDigit : Char → Bool) : List Char → List Char × List Char
  | [] => ([], [])
  | '_' :: c :: cs =>
    if isDigit c then
      let (digits, rest) := moreDigits isDigit cs
      (c :: digits, rest)
    else ([], '_' :: c :: cs)
  | c :: cs =>
    if isDigit c then
      let (digits, rest) := moreDigits isDigit cs
      (c :: digits, rest)
    else ([], c :: cs)

/-- A row of at least one digit. -/
def scanDigits (isDigit : Char → Bool) : List Char → Option (List Char × List Char)
  | [] => none
  | c :: cs =>
    if isDigit c then
      let (digits, rest) := moreDigits isDigit cs
      some (c :: digits, rest)
    else none

/-- An optional sign. -/
def scanSign : List Char → Bool × List Char
  | '-' :: cs => (true, cs)
  | '+' :: cs => (false, cs)
  | cs => (false, cs)

/-- The digits of a decimal integer: a zero alone, or a row that does not start with one. -/
def scanWhole : List Char → Option (List Char × List Char)
  | '0' :: cs => some (['0'], cs)
  | cs => scanDigits Char.isDigit cs

def ofInt? (i : Int) : Option Document := if fitsInt64 i then some (.integer i) else none

/-- An integer in a base that is written in front. -/
def scanBased (base : Nat) (isDigit : Char → Bool) (cs : List Char) : Option (Document × List Char) := do
  let (digits, rest) ← scanDigits isDigit cs
  let value ← ofInt? (ofDigits base digits)
  some (value, rest)

def scanInteger : List Char → Option (Document × List Char)
  | '0' :: 'x' :: cs => scanBased 16 isHexDigit cs
  | '0' :: 'o' :: cs => scanBased 8 isOctalDigit cs
  | '0' :: 'b' :: cs => scanBased 2 isBinaryDigit cs
  | cs => do
    let (negative, cs) := scanSign cs
    let (digits, rest) ← scanWhole cs
    let n : Int := ofDigits 10 digits
    let value ← ofInt? (if negative then -n else n)
    some (value, rest)

/-- An exponent, if one comes next. -/
def scanExponent : List Char → Option (Option Int × List Char)
  | c :: cs =>
    if c = 'e' ∨ c = 'E' then do
      let (negative, cs) := scanSign cs
      let (digits, rest) ← scanDigits Char.isDigit cs
      let n : Int := ofDigits 10 digits
      some (some (if negative then -n else n), rest)
    else some (none, c :: cs)
  | [] => some (none, [])

/-- A fraction, if one comes next. -/
def scanFraction : List Char → Option (Option (List Char) × List Char)
  | '.' :: cs => (scanDigits Char.isDigit cs).map fun (digits, rest) => (some digits, rest)
  | cs => some (none, cs)

/-- A number with a fraction or an exponent. One that is too large has no value unless it is negative. -/
def scanDecimal (cs : List Char) : Option (Document × List Char) := do
  let (negative, cs) := scanSign cs
  let (whole, cs) ← scanWhole cs
  let (fraction, cs) ← scanFraction cs
  let (exponent, cs) ← scanExponent cs
  if fraction.isNone && exponent.isNone then none
  else
    let places := (fraction.getD []).length
    let x := Binary64.ofDecimal negative (ofDigits 10 (whole ++ fraction.getD [])) (exponent.getD 0 - places)
    if x = .infinity false then none else some (.real x, cs)

/-- The words for infinity and for what is no number, with an optional sign. -/
def scanSpecial (cs : List Char) : Option (Document × List Char) :=
  let (negative, cs) := scanSign cs
  match cs with
  | 'i' :: 'n' :: 'f' :: cs => some (.real (.infinity negative), cs)
  | 'n' :: 'a' :: 'n' :: cs => some (.real .nan, cs)
  | _ => none

end TreeShell.Toml
