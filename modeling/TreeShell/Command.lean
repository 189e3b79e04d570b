import TreeShell.Text.Blank
/-!
# Commands and command lines

The vocabulary is closed: five commands, written exactly as their names. A line is taken apart into its
words, of which the first is the command and the others are its arguments. `CommandError` lists what a
command may answer instead of output; its `message` is the line that the user sees.
-/

namespace TreeShell

open Text

inductive Command where
  | ls | cd | cat | pwd | clear
  deriving DecidableEq

namespace Command

def all : List Command := [ls, cd, cat, pwd, clear]

def name : Command → String
  | ls => "ls"
  | cd => "cd"
  | cat => "cat"
  | pwd => "pwd"
  | clear => "clear"

end Command

/-- Why a command was not carried out. A look-up that fails and one that finds the wrong kind of node are
told apart here but read the same to the user. -/
inductive CommandError where
  | disallowed (name : String)
  | unsupportedOption (command : Command) (option : String)
  | missingOperand (command : Command)
  | pathNotFound (target : String)
  | notADirectory (target : String)
  | fileNotFound (target : String)
  | notAFile (target : String)
  deriving DecidableEq

/-- The line shown to the user. -/
def CommandError.message : CommandError → String
  | disallowed name => "Command not allowed: " ++ name
  | unsupportedOption command option => command.name ++ ": unsupported option: " ++ option
  | missingOperand command => command.name ++ ": missing file operand"
  | pathNotFound target => "cd: no such directory: " ++ target
  | notADirectory target => "cd: no such directory: " ++ target
  | fileNotFound target => "cat: " ++ target ++ ": No such file"
  | notAFile target => "cat: " ++ target ++ ": No such file"

/-- The command of a name; case matters. -/
def Command.ofName (name : String) : Except CommandError Command :=
  match Command.all.find? fun command => command.name = name with
  | some command => .ok command
  | none => .error (.disallowed name)

/-- A line's words: the command's name and its arguments. -/
structure Request where
  name : String
  args : List String
  deriving DecidableEq

/-- The words of a line, or `none` for a blank one. -/
def Request.ofLine (line : String) : Option Request :=
  match words line.toList with
  | [] => none
  | name :: args => some ⟨String.ofList name, args.map String.ofList⟩

theorem Command.ofName_name (command : Command) : Command.ofName command.name = .ok command := by
  cases command <;> rfl

/-- A name is a command's only if it is written like it. -/
theorem Command.name_of_ofName {name : String} {command : Command} (h : Command.ofName name = .ok command) :
    command.name = name := by
  unfold Command.ofName at h
  split at h
  · next c hc =>
    cases h
    simpa using List.find?_some hc
  · cases h

end TreeShell
