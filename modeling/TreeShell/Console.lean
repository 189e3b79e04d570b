import TreeShell.Interpreter
/-!
# The console

The text that a terminal writes. An interactive console leaves out the echo of a line, because the user's
own typing shows it; a transcript starts every evaluation with it. File texts are written as they are.
-/

namespace TreeShell

/-- How the echo of a line is handled. -/
inductive Console.Mode where
  | interactive
  | transcript
  deriving DecidableEq

/-- A console: whether the prompt is coloured, and how lines are echoed. -/
structure Console where
  color : Bool
  mode : Console.Mode
  deriving DecidableEq

namespace Console

/-- Clears the screen and moves the cursor to its upper left corner. -/
def clearSequence : String := "\x1b[2J\x1b[H"

/-- The lines in order, each with a newline behind it. -/
def writeLines (lines : List String) : String := String.ofList (lines.flatMap fun line => line.toList ++ ['\n'])

/-- A text in bold green. -/
def highlighted (text : String) : String := "\x1b[1m\x1b[32m" ++ text ++ "\x1b[39m\x1b[0m"

/-- The startup screen. An interactive console shows its prompt separately. -/
def startup (c : Console) (it : Interpreter) : String :=
  match c.mode with
  | .interactive => writeLines Banner.lines
  | .transcript => writeLines it.startupLines

/-- The prompt, with the cursor left on its line. -/
def prompt (c : Console) (text : String) : String := (if c.color then highlighted text else text) ++ " "

/-- An evaluation, shown by the interpreter after it. -/
def render (c : Console) (e : Evaluation) (it : Interpreter) : String :=
  if e.clears then
    match c.mode with
    | .interactive => clearSequence ++ c.startup it
    | .transcript => c.startup it
  else
    match c.mode with
    | .interactive => writeLines e.output
    | .transcript => writeLines e.transcript

end Console

end TreeShell
