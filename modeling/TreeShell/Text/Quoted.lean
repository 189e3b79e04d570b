import TreeShell.Text.Printable
/-!
# Quoted text

A text between double quotes with nothing in it that could be misread: a quote, a backslash and the usual
controls are written with a backslash, and every other character that does not show is written by its code
point, as in `\u{200b}`. `encode_append`: a text is quoted character by character.
-/

namespace TreeShell.Text

namespace Quoted

/-- A character by its code point. -/
def byCode (c : Char) : List Char := ['\\', 'u', '\x7b'] ++ Nat.toDigits 16 c.toNat ++ ['\x7d']

def encodeChar (c : Char) : List Char :=
  match c with
  | '"' => ['\\', '"']
  | '\\' => ['\\', '\\']
  | '\t' => ['\\', 't']
  | '\r' => ['\\', 'r']
  | '\n' => ['\\', 'n']
  | '\x00' => ['\\', '0']
  | c => if isPrintable c then [c] else byCode c

def encode (cs : List Char) : List Char := cs.flatMap encodeChar

theorem encode_append (as bs : List Char) : encode (as ++ bs) = encode as ++ encode bs := by
  simp [encode]

end Quoted

/-- A text between quotes. -/
def quoted (s : String) : String := String.ofList ('"' :: Quoted.encode s.toList ++ ['"'])

end TreeShell.Text
