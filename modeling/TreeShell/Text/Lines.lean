import TreeShell.Text.Utf8
/-!
# Lines of a byte stream

A stream is cut after each newline byte; a last piece without a newline is a line too if it is not empty.
`flatten_lines`: the lines, terminators included, are the stream. `textLines` gives the lines of a
well-formed stream without their terminators, which are a newline or a carriage return and a newline.
-/

namespace TreeShell.Text

/-- The newline byte. -/
def newline : UInt8 := 10

/-- The lines of a stream, each with its terminator. -/
def lines : Bytes → List Bytes
  | [] => []
  | b :: bs =>
    if b = newline then [b] :: lines bs
    else match lines bs with
      | [] => [[b]]
      | line :: rest => (b :: line) :: rest

/-- A line without its terminator. -/
def dropTerminator (cs : List Char) : List Char :=
  match cs.reverse with
  | '\n' :: '\r' :: rest => rest.reverse
  | '\n' :: rest => rest.reverse
  | _ => cs

/-- The lines of a stream as text, or `none` if one of them is not UTF-8. -/
def textLines (bs : Bytes) : Option (List String) :=
  (lines bs).mapM fun line => (Utf8.decode line).map fun cs => String.ofList (dropTerminator cs)

theorem flatten_lines (bs : Bytes) : (lines bs).flatten = bs := by
  induction bs with
  | nil => rfl
  | cons b bs ih =>
    simp only [lines]
    split
    · simp [ih]
    · cases h : lines bs with
      | nil => rw [h] at ih; simp at ih; simp [ih]
      | cons line rest => rw [h] at ih; simpa using ih

end TreeShell.Text
