import TreeShell.Config.Layers
import TreeShell.Log.Setup
import TreeShell.Terminal
/-!
# The program

From the arguments to the exit code: the settings are loaded, the log is set up, the terminal is opened and
the action carried out. The first step that fails ends the program with one line on the standard error. All
that the program reads is given: arguments, variables, disk, input and the time for its log lines. What the
runtime writes about a crash is left out.
-/

namespace TreeShell

open Text

namespace Program

/-- What the program is started with. -/
structure Start where
  args : List String
  environment : Environment
  disk : Disk
  /-- The time that log lines bear. -/
  time : String

/-- What the program leaves behind. -/
structure Finish where
  code : Nat
  stdout : String
  stderr : String
  disk : Disk

/-- The line about an error, the error of the system behind it last. -/
def errorLine (context message : String) (cause : Option Disk.Error) : String :=
  "Error: " ++ (if context = "" then "" else context ++ ": ") ++ message ++
    (match cause with
      | some e => ": " ++ e.message
      | none => "") ++ "\n"

/-- The settings that the arguments, the files and the environment come to. -/
def settingsOf (r : Config.Readers) (c : CommandLine) (env : Environment) (d : Disk) : Except Config.Error Settings :=
  (Config.load r d env c.config).map c.applyTo

/-- Everything that an action needs: the terminal, the log, and what was written on the way. -/
structure Ready where
  terminal : Terminal
  action : Action
  logger : Log.Logger
  stderr : String
  disk : Disk

/-- The action that the arguments ask for; without one the shell is started. -/
def actionOf (c : CommandLine) : Action := c.action.getD .shell

def failed (stderr : String) (d : Disk) : Finish := ⟨1, "", stderr, d⟩

/-- Sets up the log and opens the terminal. -/
def prepareWith (c : CommandLine) (s : Settings) (start : Start) : Except Finish Ready :=
  let setup := Log.setUp s.log start.environment start.disk
  let complaints := String.join (setup.complaints.map (· ++ "\n"))
  match setup.result with
  | .error .crash => .error ⟨101, "", complaints, setup.disk⟩
  | .error (.failure e) => .error (failed (complaints ++ errorLine "initializing logging" e.message none) setup.disk)
  | .ok logger =>
    let (written, d) := logger.log start.time (Terminal.openingEvents s.session) setup.disk
    match Terminal.opened s.session d with
    | .error e =>
      .error (failed (complaints ++ written ++ errorLine "initializing terminal" e.message e.cause?) d)
    | .ok terminal => .ok ⟨terminal, actionOf c, logger, complaints ++ written, d⟩

/-- All that comes before the action. -/
def prepare (r : Config.Readers) (c : CommandLine) (start : Start) : Except Finish Ready :=
  match settingsOf r c start.environment start.disk with
  | .error e => .error (failed (errorLine "loading configuration" e.message none) start.disk)
  | .ok s => prepareWith c s start

/-- What is left behind by an action. -/
def Ready.finish (r : Ready) (time : String) (o : Terminal.Outcome) : Finish :=
  let (written, d) := r.logger.log time o.events r.disk
  match o.error with
  | none => ⟨0, o.output, r.stderr ++ written, d⟩
  | some e => ⟨1, o.output, r.stderr ++ written ++ errorLine "" e.message e.cause?, d⟩

/-- Carries out what the arguments say. -/
def carryOut (r : Config.Readers) (c : CommandLine) (start : Start) (input : Bytes) : Finish :=
  match prepare r c start with
  | .error finish => finish
  | .ok ready => ready.finish start.time (ready.terminal.execute ready.action ready.disk input)

/-- The whole program, unless the arguments are refused. -/
def run (r : Config.Readers) (start : Start) (input : Bytes) : Except CommandLine.Refusal Finish :=
  (CommandLine.parse start.args).map fun c => carryOut r c start input

/-- The exit code for arguments that are not carried out. -/
def codeOf : CommandLine.Refusal → Nat
  | .displayHelp => 0
  | _ => 2

end Program

end TreeShell
