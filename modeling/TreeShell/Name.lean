import TreeShell.Path
import TreeShell.Text.Blank
/-!
# Entry names

A manifest may use as a name what a user can type as one argument and as one step of a path: a segment
without slash, NUL and blanks. A name that starts with a dot is hidden from a plain listing.
-/

namespace TreeShell.Name

open Text

/-- A name that a manifest accepts. -/
def isValid (name : String) : Bool :=
  decide (IsSegment name) && name.toList.all fun c => c != '/' && c != '\x00' && !isBlank c

def isHidden (name : String) : Bool := name.toList.head? == some '.'

theorem isValid_iff (name : String) :
    isValid name = true ↔ IsSegment name ∧ ∀ c ∈ name.toList, c ≠ '/' ∧ c ≠ '\x00' ∧ isBlank c = false := by
  simp [isValid, and_assoc]

end TreeShell.Name
