import TreeShell.Json.Number
/-!
# Tokens of JSON

A JSON text is a row of tokens with blanks between them: brackets, commas, colons, texts and other
values. A text whose escapes name half of a surrogate pair is a token without a value.
-/

namespace TreeShell.Json

open Number

inductive Token where
  | openList
  | closeList
  | openRecord
  | closeRecord
  | comma
  | colon
  /-- A text, or `none` for one that no characters can stand for. -/
  | text (value : Option String)
  /-- A number or one of the words `null`, `true` and `false`. -/
  | value (value : Document)

namespace Token

/-! ## Texts -/

/-- One piece of a text: a character, or a 16-bit unit of a surrogate pair. -/
inductive Piece where
  | char (c : Char)
  | lead (bits : Nat)
  | trail (bits : Nat)

/-- The piece of a four-digit escape. -/
def Piece.ofUnit (n : Nat) : Piece :=
  if 0xD800 ≤ n ∧ n < 0xDC00 then .lead (n - 0xD800)
  else if 0xDC00 ≤ n ∧ n < 0xE000 then .trail (n - 0xDC00)
  else .char (Char.ofNat n)

/-- The pieces of a text up to its closing quote, and what follows the quote. A control character and an
unknown escape are refused. -/
def scanText : List Char → Option (List Piece × List Char)
  | [] => none
  | '"' :: cs => some ([], cs)
  | '\\' :: 'u' :: a :: b :: c :: d :: cs =>
    if [a, b, c, d].all isHexDigit then
      (scanText cs).map fun (pieces, rest) => (.ofUnit (ofDigits 16 [a, b, c, d]) :: pieces, rest)
    else none
  | '\\' :: e :: cs =>
    let plain := match e with
      | '"' => some '"'
      | '\\' => some '\\'
      | '/' => some '/'
      | 'b' => some '\x08'
      | 'f' => some '\x0c'
      | 'n' => some '\n'
      | 'r' => some '\r'
      | 't' => some '\t'
      | _ => none
    match plain with
    | some c => (scanText cs).map fun (pieces, rest) => (.char c :: pieces, rest)
    | none => none
  | c :: cs =>
    if c.toNat < 0x20 || c == '\\' then none
    else (scanText cs).map fun (pieces, rest) => (.char c :: pieces, rest)

/-- The characters of the pieces; a lead without its trail and a trail alone have none. -/
def charsOf : List Piece → Option (List Char)
  | [] => some []
  | .char c :: rest => (charsOf rest).map (c :: ·)
  | .lead hi :: .trail lo :: rest => (charsOf rest).map (Char.ofNat (0x10000 + hi * 0x400 + lo) :: ·)
  | .lead _ :: _ => none
  | .trail _ :: _ => none

/-! ## Numbers -/

/-- The digits in front. -/
def scanDigits (cs : List Char) : List Char × List Char := (cs.takeWhile Char.isDigit, cs.dropWhile Char.isDigit)

/-- A fraction, which has at least one digit, if a point comes next. -/
def scanFraction (cs : List Char) : Option (Option (List Char) × List Char) :=
  match cs with
  | '.' :: cs =>
    match scanDigits cs with
    | ([], _) => none
    | (digits, rest) => some (some digits, rest)
  | cs => some (none, cs)

/-- The digits of an exponent behind its letter. -/
def scanPower (negative : Bool) (cs : List Char) : Option (Option Int × List Char) :=
  match scanDigits cs with
  | ([], _) => none
  | (digits, rest) =>
    let n : Int := ofDigits 10 digits
    some (some (if negative then -n else n), rest)

/-- An exponent, if its letter comes next. -/
def scanExponent (cs : List Char) : Option (Option Int × List Char) :=
  match cs with
  | c :: cs =>
    if c = 'e' ∨ c = 'E' then
      match cs with
      | '-' :: cs => scanPower true cs
      | '+' :: cs => scanPower false cs
      | cs => scanPower false cs
    else some (none, c :: cs)
  | [] => some (none, [])

/-- The part of a number behind its sign. A zero in front is the whole integer part. -/
def scanUnsigned (negative : Bool) (cs : List Char) : Option (Numeral × List Char) :=
  let whole := match cs with
    | '0' :: rest => some (['0'], rest)
    | cs => match scanDigits cs with
      | ([], _) => none
      | found => some found
  match whole with
  | none => none
  | some (whole, rest) =>
    match scanFraction rest with
    | none => none
    | some (fraction, rest) =>
      (scanExponent rest).map fun (exponent, rest) => (⟨negative, whole, fraction, exponent⟩, rest)

def scanNumber (cs : List Char) : Option (Numeral × List Char) :=
  match cs with
  | '-' :: cs => scanUnsigned true cs
  | cs => scanUnsigned false cs

/-! ## A whole text -/

/-- The blanks of JSON. -/
def isSpace (c : Char) : Bool := c == ' ' || c == '\t' || c == '\n' || c == '\r'

/-- The token in front and what follows it. -/
def scanOne (cs : List Char) : Option (Token × List Char) :=
  match cs with
  | '[' :: cs => some (.openList, cs)
  | ']' :: cs => some (.closeList, cs)
  | '\x7b' :: cs => some (.openRecord, cs)
  | '\x7d' :: cs => some (.closeRecord, cs)
  | ',' :: cs => some (.comma, cs)
  | ':' :: cs => some (.colon, cs)
  | '"' :: cs => (scanText cs).map fun (pieces, rest) => (.text ((charsOf pieces).map String.ofList), rest)
  | 'n' :: 'u' :: 'l' :: 'l' :: cs => some (.value .null, cs)
  | 't' :: 'r' :: 'u' :: 'e' :: cs => some (.value (.bool true), cs)
  | 'f' :: 'a' :: 'l' :: 's' :: 'e' :: cs => some (.value (.bool false), cs)
  | cs => (scanNumber cs).map fun (n, rest) => (.value n.value, rest)

/-- The tokens of a text, given a bound on their number. -/
def scanUpTo : Nat → List Char → Option (List Token)
  | 0, _ => none
  | fuel + 1, cs =>
    match cs.dropWhile isSpace with
    | [] => some []
    | cs =>
      match scanOne cs with
      | none => none
      | some (token, rest) => (scanUpTo fuel rest).map (token :: ·)

/-- The tokens of a text. A token has at least one character, so the length bounds their number. -/
def scan (s : String) : Option (List Token) := scanUpTo (s.toList.length + 1) s.toList

end Token

end TreeShell.Json
