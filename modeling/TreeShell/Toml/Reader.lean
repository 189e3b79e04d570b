import TreeShell.Toml.Date
import TreeShell.Toml.Number
import TreeShell.Toml.Table
import TreeShell.Toml.Text
/-!
# Reading TOML

A TOML text is a row of lines: headers, which say where the values behind them go, and keys with their
values. `Toml.read?` gives the record of the whole text. Values are nested less than eighty deep, and a
dotted key has fewer than eighty parts.
-/

namespace TreeShell.Toml

/-- How deep values are nested at most, and how many parts a key has at most. -/
def nestingLimit : Nat := 79

/-! ## Keys -/

def isBareKeyChar (c : Char) : Bool := c.isAlphanum || c == '_' || c == '-'

/-- One part of a key: between quotes or apostrophes, or bare. -/
def scanKeyPart (cs : List Char) : Option (String × List Char) :=
  match cs with
  | '"' :: cs => (scanBasic cs).map fun (key, rest) => (String.ofList key, rest)
  | '\'' :: cs => (scanLiteral cs).map fun (key, rest) => (String.ofList key, rest)
  | cs =>
    match cs.takeWhile isBareKeyChar with
    | [] => none
    | key => some (String.ofList key, cs.dropWhile isBareKeyChar)

/-- The parts of a key with points between them and blanks around each, given how many there may be. -/
def scanKey : Nat → List Char → Option (List String × List Char)
  | 0, _ => none
  | limit + 1, cs => do
    let (part, rest) ← scanKeyPart (cs.dropWhile isSpace)
    match rest.dropWhile isSpace with
    | '.' :: rest => (scanKey limit rest).map fun (parts, rest) => (part :: parts, rest)
    | rest => some ([part], rest)

/-- A key: the tables on its way and its last part. -/
def scanKeyPath (cs : List Char) : Option ((List String × String) × List Char) := do
  let (parts, rest) ← scanKey nestingLimit cs
  let last ← parts.getLast?
  some ((parts.dropLast, last), rest)

/-! ## Values -/

/-- What follows blanks, line breaks and comments inside an array. A comment ends with its line. -/
def skipGap (inComment : Bool) : List Char → Option (List Char)
  | [] => some []
  | '\r' :: '\n' :: cs => skipGap false cs
  | c :: cs =>
    if c = '\n' then skipGap false cs
    else if inComment then (if isLineChar c then skipGap true cs else none)
    else if isSpace c then skipGap false cs
    else if c = '#' then skipGap true cs
    else some (c :: cs)

/-- A value that holds no others. -/
def scanLeaf (cs : List Char) : Option (Document × List Char) :=
  match cs with
  | '"' :: _ => (scanText cs).map fun (text, rest) => (.text text, rest)
  | '\'' :: _ => (scanText cs).map fun (text, rest) => (.text text, rest)
  | 't' :: 'r' :: 'u' :: 'e' :: rest => some (.bool true, rest)
  | 'f' :: 'a' :: 'l' :: 's' :: 'e' :: rest => some (.bool false, rest)
  | cs => (scanDate cs).or ((scanDecimal cs).or ((scanSpecial cs).or (scanInteger cs)))

mutual
/-- A value, given how deep values may still be nested inside it. -/
def scanValue (fuel depth : Nat) (cs : List Char) : Option (Document × List Char) :=
  match fuel with
  | 0 => none
  | fuel + 1 =>
    match cs, depth with
    | '[' :: _, 0 => none
    | '\x7b' :: _, 0 => none
    | '[' :: cs, depth + 1 => (scanItems fuel depth cs).map fun (items, rest) => (.list items, rest)
    | '\x7b' :: cs, depth + 1 =>
      match cs.dropWhile isSpace with
      | '\x7d' :: rest => some (.record [], rest)
      | cs => (scanPairs fuel depth [] cs).map fun (entries, rest) => (.record (fieldsOf entries), rest)
    | cs, _ => scanLeaf cs
termination_by structural fuel

/-- The items of an array that are left, and the bracket that closes it. A comma may follow the last. -/
def scanItems (fuel depth : Nat) (cs : List Char) : Option (List Document × List Char) :=
  match fuel with
  | 0 => none
  | fuel + 1 => do
    match ← skipGap false cs with
    | ']' :: rest => some ([], rest)
    | cs =>
      let (item, cs) ← scanValue fuel depth cs
      match ← skipGap false cs with
      | ']' :: rest => some ([item], rest)
      | ',' :: cs => (scanItems fuel depth cs).map fun (items, rest) => (item :: items, rest)
      | _ => none
termination_by structural fuel

/-- The keys and values of an inline table that are left, and the brace that closes it. -/
def scanPairs (fuel depth : Nat) (entries : Entries) (cs : List Char) : Option (Entries × List Char) :=
  match fuel with
  | 0 => none
  | fuel + 1 => do
    let ((path, key), cs) ← scanKeyPath cs
    let cs ← scanChar '=' cs
    let (value, cs) ← scanValue fuel depth (cs.dropWhile isSpace)
    let entries ← Entries.insertAt .header entries path key value
    match cs.dropWhile isSpace with
    | '\x7d' :: rest => some (entries, rest)
    | ',' :: cs => scanPairs fuel depth entries cs
    | _ => none
termination_by structural fuel
end

/-! ## Lines -/

/-- What follows the end of a line, before which blanks and a comment may stand. -/
def endLine (cs : List Char) : Option (List Char) :=
  let rest := match cs.dropWhile isSpace with
    | '#' :: cs => cs.dropWhile isLineChar
    | cs => cs
  match rest with
  | [] => some []
  | '\n' :: cs => some cs
  | '\r' :: '\n' :: cs => some cs
  | _ => none

/-- The tables read so far, and the header behind which the next values stand. -/
structure Progress where
  root : Entries
  path : List String

/-- The line of a header, behind its first bracket. -/
def scanHeader (progress : Progress) (cs : List Char) : Option (Progress × List Char) :=
  match cs with
  | '[' :: cs => do
    let ((path, key), cs) ← scanKeyPath cs
    let cs ← scanChar ']' cs
    let cs ← scanChar ']' cs
    let root ← Entries.openNext progress.root path key
    some (⟨root, path ++ [key]⟩, cs)
  | cs => do
    let ((path, key), cs) ← scanKeyPath cs
    let cs ← scanChar ']' cs
    let root ← Entries.openTable progress.root path key
    some (⟨root, path ++ [key]⟩, cs)

/-- The line of a key and its value. -/
def scanPair (progress : Progress) (cs : List Char) : Option (Progress × List Char) := do
  let ((path, key), cs) ← scanKeyPath cs
  let cs ← scanChar '=' cs
  let (value, cs) ← scanValue (2 * cs.length + 2) nestingLimit (cs.dropWhile isSpace)
  let root ← Entries.editAt false (fun form entries => Entries.insertAt form entries path key value)
    progress.path .header progress.root
  some ({ progress with root }, cs)

/-- One line without its end; a line may be empty. -/
def scanLine (progress : Progress) (cs : List Char) : Option (Progress × List Char) :=
  match cs with
  | [] => some (progress, cs)
  | '\n' :: _ => some (progress, cs)
  | '\r' :: _ => some (progress, cs)
  | '#' :: _ => some (progress, cs)
  | '[' :: cs => scanHeader progress cs
  | cs => scanPair progress cs

/-- The lines of a text, given a bound on their number. -/
def scanLines : Nat → Progress → List Char → Option Progress
  | 0, _, _ => none
  | fuel + 1, progress, cs => do
    let (progress, cs) ← scanLine progress (cs.dropWhile isSpace)
    match ← endLine cs with
    | [] => some progress
    | cs => scanLines fuel progress cs

/-- The record of a text, which may start with a byte order mark. A line has at least one character, so the
length bounds their number. -/
def read? (s : String) : Option Document :=
  let cs := match s.toList with
    | '\uFEFF' :: cs => cs
    | cs => cs
  (scanLines (cs.length + 1) ⟨[], []⟩ cs).map fun progress => .record (fieldsOf progress.root)

end TreeShell.Toml
