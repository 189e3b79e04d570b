/-!
# UTF-8

Bytes are read one at a time by a machine whose state says what the next byte may be. `decode` gives the
characters of a well-formed byte sequence and `none` for any other; overlong forms, surrogates and code
points above 0x10FFFF are not well formed. `run_append`: the machine over two parts is the machine over
the first and then over the second, so a sequence may be cut between any two characters.
-/

namespace TreeShell.Text

/-- A byte sequence, as a file or an input stream holds it. -/
abbrev Bytes := List UInt8

namespace Utf8

/-- Where a reader stands: between characters, or inside one, with the number of bytes owed beyond the
next one, the least and the greatest value the next one may have, and the bits read so far. -/
inductive State where
  | start
  | inside (owed low high bits : Nat)
  deriving DecidableEq, Repr

/-- What a byte does between characters: it is a character by itself, it opens a longer one, or it is
refused. -/
inductive Step where
  | char (code : Nat)
  | more (next : State)
  | refuse
  deriving DecidableEq, Repr

/-- The first byte of a character. -/
def first (b : Nat) : Step :=
  if b ≤ 0x7F then .char b
  else if b < 0xC2 then .refuse
  else if b ≤ 0xDF then .more (.inside 0 0x80 0xBF (b - 0xC0))
  else if b = 0xE0 then .more (.inside 1 0xA0 0xBF 0)
  else if b = 0xED then .more (.inside 1 0x80 0x9F 0xD)
  else if b ≤ 0xEF then .more (.inside 1 0x80 0xBF (b - 0xE0))
  else if b = 0xF0 then .more (.inside 2 0x90 0xBF 0)
  else if b ≤ 0xF3 then .more (.inside 2 0x80 0xBF (b - 0xF0))
  else if b = 0xF4 then .more (.inside 2 0x80 0x8F 4)
  else .refuse

/-- One byte, from any state. -/
def step : State → Nat → Step
  | .start, b => first b
  | .inside owed low high bits, b =>
    if low ≤ b ∧ b ≤ high then
      match owed with
      | 0 => .char (bits * 64 + (b - 0x80))
      | k + 1 => .more (.inside k 0x80 0xBF (bits * 64 + (b - 0x80)))
    else .refuse

/-- The characters of the bytes from a state on, and the state after the last byte. -/
def run : State → Bytes → Option (List Char × State)
  | q, [] => some ([], q)
  | q, b :: bs =>
    match step q b.toNat with
    | .char code => (run .start bs).map fun (cs, r) => (Char.ofNat code :: cs, r)
    | .more next => run next bs
    | .refuse => none

/-- The characters of a well-formed sequence. -/
def decode (bs : Bytes) : Option (List Char) :=
  match run .start bs with
  | some (cs, .start) => some cs
  | _ => none

/-- `decode` to a string. -/
def decodeString (bs : Bytes) : Option String := (decode bs).map String.ofList

/-- The bytes of a string. -/
def encodeString (s : String) : Bytes := s.toUTF8.toList

/-- Running over two parts is running over the first and then over the second. -/
theorem run_append (q : State) (as bs : Bytes) :
    run q (as ++ bs) = (run q as).bind fun (cs, r) => (run r bs).map fun (ds, t) => (cs ++ ds, t) := by
  induction as generalizing q with
  | nil => simp [run]
  | cons a as ih =>
    simp only [List.cons_append, run]
    cases step q a.toNat with
    | char code =>
      simp only [ih]
      cases run .start as with
      | none => rfl
      | some p =>
        simp only [Option.bind_some, Option.map_some]
        cases run p.2 bs <;> simp
    | more next => exact ih next
    | refuse => rfl

end Utf8

end TreeShell.Text
