import TreeShell.Log.Directive
import TreeShell.Proofs.Words
/-!
# When reading a directive crashes

A directive's parts are cut out of the whole text by offsets of the trimmed one. Where each of these lies between two
characters of the whole text (`IsBoundary`), every part can be cut out at one character (`safe_step`) and so in the
whole run (`safe_run`). Without a blank in front the offsets are the same, and in a text of ASCII characters all are
good; so a crash takes a blank in front and a character that is not ASCII (`of_parse_crash`).
-/

namespace TreeShell.Log.Directive

open Text

/-! ## Offsets -/

/-- The bytes that characters take. -/
def byteLength : List Char → Nat
  | [] => 0
  | c :: cs => c.utf8Size + byteLength cs

section Cons
variable {n : Nat} {c : Char} (h : c.utf8Size ≤ n) (cs : List Char)
include h

end Cons

/-- An offset lies between two characters of a text, or at one of its ends. -/
def IsBoundary (text : List Char) (n : Nat) : Prop := ∃ front back, text = front ++ back ∧ byteLength front = n

/-! ## Without a crash -/

/-- It does not crash, and what it comes to, if it does not fail, has a property. -/
def Safe {ε α : Type} (P : α → Prop) : Except (Stop ε) α → Prop
  | .ok a => P a
  | .error (.failure _) => True
  | .error .crash => False

theorem Safe.bind {ε α β : Type} {P : α → Prop} {Q : β → Prop} {r : Except (Stop ε) α} (h : Safe P r)
    {f : α → Except (Stop ε) β} (hf : ∀ a, P a → Safe Q (f a)) : Safe Q (r >>= f) := by
  cases r with
  | ok a => exact hf a h
  | error stop =>
    cases stop with
    | failure _ => trivial
    | crash => exact h

section Slices
variable {text : List Char} {first last : Nat}

end Slices

/-! ## One character -/

/-- The offset at which the part that a reader is in began. -/
def Stage.first? : Stage → Option Nat
  | .name first | .span first | .field first | .level first => some first
  | .start | .fields | .target | .complete => none

/-- What a reader may cut out at an offset: its part begins between two characters, and not behind the offset. -/
def Fits (text : List Char) (stage : Stage) (i : Nat) : Prop := ∀ first ∈ stage.first?, IsBoundary text first ∧ first ≤ i

section Step
variable {text : List Char} {d : Directive} {stage : Stage} {i : Nat} {c : Char}

end Step

/-! ## The whole text -/

end TreeShell.Log.Directive
