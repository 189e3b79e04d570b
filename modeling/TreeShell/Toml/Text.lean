import TreeShell.Number.Digits
/-!
# Texts in TOML

A text stands between quotes or apostrophes, on one line or, with three of them, over several. Between
apostrophes nothing is escaped. A line break inside a text is read as a newline, whichever way it is written.
Each reader takes what follows the opening mark and gives the characters and what follows the closing one.
-/

namespace TreeShell.Toml

open Number

/-- The blanks of a line. -/
def isSpace (c : Char) : Bool := c == ' ' || c == '\t'

/-- A character that may stand in a line: a tab, or any but a control. -/
def isLineChar (c : Char) : Bool := c == '\t' || (0x20 ≤ c.toNat && c.toNat != 0x7F)

/-- The character of a code point, unless it is no character. -/
def charOfCode? (n : Nat) : Option Char := if h : n.isValidChar then some (Char.ofNatAux n h) else none

/-- The character of a row of hexadecimal digits. -/
def charOfHex? (cs : List Char) : Option Char :=
  if cs.all isHexDigit then charOfCode? (ofDigits 16 cs) else none

/-- The character of a one-letter escape. -/
def charOfEscape? : Char → Option Char
  | 'b' => some '\x08'
  | 't' => some '\t'
  | 'n' => some '\n'
  | 'f' => some '\x0c'
  | 'r' => some '\r'
  | '"' => some '"'
  | '\\' => some '\\'
  | _ => none

/-- Puts a character in front of the characters read. -/
def consTo (c : Char) (found : List Char × List Char) : List Char × List Char := (c :: found.1, found.2)

/-- A text between quotes. -/
def scanBasic : List Char → Option (List Char × List Char)
  | [] => none
  | '"' :: cs => some ([], cs)
  | '\\' :: 'u' :: a :: b :: c :: d :: cs =>
    match charOfHex? [a, b, c, d] with
    | some x => (scanBasic cs).map (consTo x)
    | none => none
  | '\\' :: 'U' :: a :: b :: c :: d :: e :: f :: g :: h :: cs =>
    match charOfHex? [a, b, c, d, e, f, g, h] with
    | some x => (scanBasic cs).map (consTo x)
    | none => none
  | '\\' :: e :: cs =>
    match charOfEscape? e with
    | some x => (scanBasic cs).map (consTo x)
    | none => none
  | c :: cs => if isLineChar c && c != '\\' then (scanBasic cs).map (consTo c) else none

/-- Whether nothing but blanks stands before the next line break. -/
def breaksHere (cs : List Char) : Bool :=
  match cs.dropWhile isSpace with
  | '\n' :: _ => true
  | '\r' :: '\n' :: _ => true
  | _ => false

/-- A text between three quotes. One or two quotes may stand right before the closing three. A backslash at
the end of a line drops all blanks and line breaks up to the next character, which is `trimming`. -/
def scanLongBasic (trimming : Bool) : List Char → Option (List Char × List Char)
  | [] => none
  | '"' :: '"' :: '"' :: '"' :: '"' :: cs => some (['"', '"'], cs)
  | '"' :: '"' :: '"' :: '"' :: cs => some (['"'], cs)
  | '"' :: '"' :: '"' :: cs => some ([], cs)
  | '\\' :: 'u' :: a :: b :: c :: d :: cs =>
    match charOfHex? [a, b, c, d] with
    | some x => (scanLongBasic false cs).map (consTo x)
    | none => none
  | '\\' :: 'U' :: a :: b :: c :: d :: e :: f :: g :: h :: cs =>
    match charOfHex? [a, b, c, d, e, f, g, h] with
    | some x => (scanLongBasic false cs).map (consTo x)
    | none => none
  | '\\' :: e :: cs =>
    match charOfEscape? e with
    | some x => (scanLongBasic false cs).map (consTo x)
    | none => if breaksHere (e :: cs) then scanLongBasic true (e :: cs) else none
  | '\r' :: '\n' :: cs => if trimming then scanLongBasic true cs else (scanLongBasic false cs).map (consTo '\n')
  | c :: cs =>
    if c = '\n' ∨ isSpace c then
      if trimming then scanLongBasic true cs else (scanLongBasic false cs).map (consTo c)
    else if isLineChar c && c != '\\' then (scanLongBasic false cs).map (consTo c)
    else none

/-- A text between apostrophes. -/
def scanLiteral : List Char → Option (List Char × List Char)
  | [] => none
  | '\'' :: cs => some ([], cs)
  | c :: cs => if isLineChar c then (scanLiteral cs).map (consTo c) else none

/-- A text between three apostrophes. -/
def scanLongLiteral : List Char → Option (List Char × List Char)
  | [] => none
  | '\'' :: '\'' :: '\'' :: '\'' :: '\'' :: cs => some (['\'', '\''], cs)
  | '\'' :: '\'' :: '\'' :: '\'' :: cs => some (['\''], cs)
  | '\'' :: '\'' :: '\'' :: cs => some ([], cs)
  | '\r' :: '\n' :: cs => (scanLongLiteral cs).map (consTo '\n')
  | c :: cs => if isLineChar c || c == '\n' then (scanLongLiteral cs).map (consTo c) else none

/-- What follows a line break right behind the opening marks, which does not count. -/
def dropBreak : List Char → List Char
  | '\n' :: cs => cs
  | '\r' :: '\n' :: cs => cs
  | cs => cs

/-- A text in any of the four forms, its opening mark included. -/
def scanText (cs : List Char) : Option (String × List Char) :=
  let found := match cs with
    | '"' :: '"' :: '"' :: cs => scanLongBasic false (dropBreak cs)
    | '"' :: cs => scanBasic cs
    | '\'' :: '\'' :: '\'' :: cs => scanLongLiteral (dropBreak cs)
    | '\'' :: cs => scanLiteral cs
    | _ => none
  found.map fun (cs, rest) => (String.ofList cs, rest)

end TreeShell.Toml
