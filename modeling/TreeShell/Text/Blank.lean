/-!
# Blank characters, words and trimming

A character is blank when it has the Unicode property White_Space. A line is cut into its `words`, the
maximal runs of characters that are not blank, and `trim` drops the blanks at both ends of a line.
`words_eq_nil_iff`: a line has no word exactly when all of it is blank.
-/

namespace TreeShell.Text

/-- Whether the code point of a character lies in one of the closed intervals of a table. -/
def inRanges (table : List (Nat × Nat)) (c : Char) : Bool :=
  table.any fun range => range.1 ≤ c.toNat && c.toNat ≤ range.2

/-- The property White_Space: 25 code points, of which six are ASCII. -/
def blankRanges : List (Nat × Nat) :=
  [(0x09, 0x0D), (0x20, 0x20), (0x85, 0x85), (0xA0, 0xA0), (0x1680, 0x1680), (0x2000, 0x200A),
    (0x2028, 0x2029), (0x202F, 0x202F), (0x205F, 0x205F), (0x3000, 0x3000)]

def isBlank (c : Char) : Bool := inRanges blankRanges c

/-- Whether a line starts with a character that is not blank. -/
def startsWord : List Char → Bool
  | [] => false
  | c :: _ => !isBlank c

/-- Puts a character in front of the words of the line behind it: into the first word if that word
starts the line, and as a word of its own otherwise. -/
def joinWord (c : Char) (glued : Bool) : List (List Char) → List (List Char)
  | [] => [[c]]
  | w :: ws => if glued then (c :: w) :: ws else [c] :: w :: ws

/-- The maximal runs of characters that are not blank, in order. -/
def words : List Char → List (List Char)
  | [] => []
  | c :: cs => if isBlank c then words cs else joinWord c (startsWord cs) (words cs)

/-- The characters between the first and the last one that is not blank. -/
def trim (cs : List Char) : List Char :=
  ((cs.dropWhile isBlank).reverse.dropWhile isBlank).reverse

/-- `trim` on strings. -/
def trimmed (s : String) : String := String.ofList (trim s.toList)

theorem joinWord_ne_nil (c : Char) (glued : Bool) (ws : List (List Char)) : joinWord c glued ws ≠ [] := by
  cases ws <;> cases glued <;> simp [joinWord]

theorem words_eq_nil_iff (cs : List Char) : words cs = [] ↔ ∀ c ∈ cs, isBlank c = true := by
  induction cs with
  | nil => simp [words]
  | cons c cs ih =>
    by_cases hc : isBlank c = true
    · simp [words, hc, ih]
    · simp [words, hc, joinWord_ne_nil]

end TreeShell.Text
