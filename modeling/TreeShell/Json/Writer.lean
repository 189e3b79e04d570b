import TreeShell.Document
import TreeShell.Number.Decimal
/-!
# Writing JSON

`Json.compact` writes a document on one line without blanks, `Json.pretty` one item or field a line with
two spaces for each level. In a text only the quote, the backslash and the controls are escaped.
-/

namespace TreeShell.Json

open Number

/-- A control character by its code. -/
def controlCode (c : Char) : List Char :=
  ['\\', 'u', '0', '0'] ++ (if c.toNat < 16 then ['0'] else []) ++ Nat.toDigits 16 c.toNat

def escapeChar (c : Char) : List Char :=
  match c with
  | '"' => ['\\', '"']
  | '\\' => ['\\', '\\']
  | '\x08' => ['\\', 'b']
  | '\x0c' => ['\\', 'f']
  | '\n' => ['\\', 'n']
  | '\r' => ['\\', 'r']
  | '\t' => ['\\', 't']
  | c => if c.toNat < 0x20 then controlCode c else [c]

/-- A text between quotes. -/
def textChars (s : String) : List Char := '"' :: s.toList.flatMap escapeChar ++ ['"']

/-- `textChars` as a string. -/
def quotedText (s : String) : String := String.ofList (textChars s)

/-- A value that is no list and no record. What JSON has no notation for is written as null. -/
def leafChars : Document → List Char
  | .bool value => (if value then "true" else "false").toList
  | .natural value => decimalDigits value
  | .integer value => (integerText value).toList
  | .real (.finite negative significand exponent) =>
    (Binary64.text (.finite negative significand exponent)).toList
  | .text value => textChars value
  | .date value => textChars value
  | _ => "null".toList

mutual
def compactChars : Document → List Char
  | .list items => '[' :: compactItems items ++ [']']
  | .record fields => '\x7b' :: compactFields fields ++ ['\x7d']
  | leaf => leafChars leaf

/-- The items with commas between them. -/
def compactItems : List Document → List Char
  | [] => []
  | [item] => compactChars item
  | item :: rest => compactChars item ++ ',' :: compactItems rest

/-- The fields with commas between them. -/
def compactFields : List (String × Document) → List Char
  | [] => []
  | [(key, value)] => textChars key ++ ':' :: compactChars value
  | (key, value) :: rest => textChars key ++ ':' :: compactChars value ++ ',' :: compactFields rest
end

/-- A document on one line. -/
def compact (d : Document) : String := String.ofList (compactChars d)

/-- A new line at a level. -/
def indent (level : Nat) : List Char := '\n' :: List.replicate (2 * level) ' '

mutual
/-- A document that stands at a level. -/
def prettyChars (level : Nat) : Document → List Char
  | .list [] => ['[', ']']
  | .list (item :: rest) => '[' :: prettyItems (level + 1) (item :: rest) ++ indent level ++ [']']
  | .record [] => ['\x7b', '\x7d']
  | .record (field :: rest) => '\x7b' :: prettyFields (level + 1) (field :: rest) ++ indent level ++ ['\x7d']
  | leaf => leafChars leaf

/-- The items, each on a line of its own at the level, with commas between them. -/
def prettyItems (level : Nat) : List Document → List Char
  | [] => []
  | [item] => indent level ++ prettyChars level item
  | item :: rest => indent level ++ prettyChars level item ++ ',' :: prettyItems level rest

/-- The fields, each on a line of its own at the level, with commas between them. -/
def prettyFields (level : Nat) : List (String × Document) → List Char
  | [] => []
  | [(key, value)] => indent level ++ textChars key ++ ':' :: ' ' :: prettyChars level value
  | (key, value) :: rest =>
    indent level ++ textChars key ++ ':' :: ' ' :: prettyChars level value ++ ',' :: prettyFields level rest
end

/-- A document over several lines. -/
def pretty (d : Document) : String := String.ofList (prettyChars 0 d)

end TreeShell.Json
