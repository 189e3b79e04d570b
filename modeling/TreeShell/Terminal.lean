import TreeShell.Bureau
import TreeShell.CommandLine
import TreeShell.Console
import TreeShell.Disk
import TreeShell.Json.Writer
import TreeShell.Manifest.File
import TreeShell.Text.Lines
/-!
# The terminal

A terminal is an interpreter together with the choice of colours. `Terminal.opened` builds its tree and
opens a session at the home; `Terminal.execute` carries out an action on a stream of input. An action tells
what it wrote, what it reports, and where the terminal stands afterwards, also when it fails on the way. A
batch reads all its lines before it evaluates the first.
-/

namespace TreeShell

open Text

/-- A session with the choice of colours for its prompt. -/
structure Terminal where
  interpreter : Interpreter
  color : Bool
  deriving DecidableEq

namespace Terminal

inductive Error where
  | manifest (cause : ManifestError)
  | homeMissing (home : Path)
  | io (cause : Disk.Error)
  | badFormat (format : String)
  deriving DecidableEq

namespace Error

def message : Error → String
  | manifest cause => cause.message
  | homeMissing home => "Home path " ++ home.text ++ " is not a directory in the file tree"
  | io cause => "IO error: " ++ cause.message
  | badFormat format =>
    "Configuration error: Invalid output format: " ++ format ++ " (must be 'text' or 'json')"

/-- The error of the system that is behind an error. -/
def cause? : Error → Option Disk.Error
  | manifest (.unreadable _ cause) => some cause
  | io cause => some cause
  | _ => none

end Error

/-! ## Opening -/

/-- What is reported before a terminal is opened. -/
def openingEvents (s : Settings.Session) : List Event :=
  match s.treeFile with
  | some path => [.loadingManifest path]
  | none => []

/-- The tree that the settings ask for. -/
def treeOf (s : Settings.Session) (d : Disk) : Except Error Tree :=
  match s.treeFile with
  | none => .ok Bureau.tree
  | some path =>
    match Tree.load d path with
    | .ok tree => .ok tree
    | .error e => .error (.manifest e)

/-- A terminal with a new session. -/
def opened (s : Settings.Session) (d : Disk) : Except Error Terminal :=
  match treeOf s d with
  | .error e => .error e
  | .ok tree =>
    match Interpreter.opened tree s.user s.host s.home with
    | .ok it => .ok ⟨it, s.color⟩
    | .error home => .error (.homeMissing home)

/-! ## Actions -/

/-- What an action comes to. -/
structure Outcome where
  output : String := ""
  events : List Event := []
  terminal : Terminal
  error : Option Error := none
  deriving DecidableEq

/-! ### The shell -/

/-- The console of the shell. -/
def shellConsole (t : Terminal) : Console := ⟨t.color, .interactive⟩

/-- What the shell shows when it starts. -/
def shellStart (t : Terminal) : String := t.shellConsole.startup t.interpreter

/-- What the shell shows before it reads a line. -/
def shellPrompt (t : Terminal) : String := t.shellConsole.prompt t.interpreter.prompt

/-- One line of the shell. -/
def shellLine (t : Terminal) (line : String) : Outcome :=
  let reply := t.interpreter.evaluate line
  { output := t.shellConsole.render reply.evaluation reply.next
    events := reply.events
    terminal := { t with interpreter := reply.next } }

/-- An outcome with output and events in front. -/
def Outcome.after (o : Outcome) (output : String) (events : List Event) : Outcome :=
  { o with output := output ++ o.output, events := events ++ o.events }

/-- Prompts and evaluates line by line until the input ends or is not UTF-8. -/
def shellLoop (t : Terminal) : List Bytes → Outcome
  | [] => { output := t.shellPrompt ++ "\n", events := [.inputClosed], terminal := t }
  | line :: rest =>
    match Utf8.decodeString line with
    | none => { output := t.shellPrompt, terminal := t, error := some (.io .notUtf8) }
    | some text =>
      let o := t.shellLine text
      (o.terminal.shellLoop rest).after (t.shellPrompt ++ o.output) o.events

def shell (t : Terminal) (input : Bytes) : Outcome := (t.shellLoop (lines input)).after t.shellStart []

/-! ### Batches -/

/-- The lines of a batch: given ones, or those of a script, or those of the input. -/
def batchLines (b : Batch) (d : Disk) (input : Bytes) : Except Error (List String) :=
  match b.script with
  | some path =>
    match d.readText path with
    | .error e => .error (.io e)
    | .ok text =>
      match textLines (Utf8.encodeString text) with
      | some lines => .ok lines
      | none => .error (.io .notUtf8)
  | none =>
    if b.lines.isEmpty then
      match textLines input with
      | some lines => .ok lines
      | none => .error (.io .notUtf8)
    else .ok b.lines

inductive BatchFormat where
  | text
  | json
  deriving DecidableEq

def BatchFormat.ofName : String → Except Error BatchFormat
  | "text" => .ok .text
  | "json" => .ok .json
  | name => .error (.badFormat name)

/-- The console of a batch. -/
def batchConsole : Console := ⟨false, .transcript⟩

/-- An evaluation as a record. -/
def evaluationRecord (e : Evaluation) : Document :=
  .record
    [("echoed_prompt", .text e.echo), ("output_lines", .list (e.output.map Document.text)),
      ("session_mutated", .bool e.moved), ("clear_screen", .bool e.clears)]

/-- The transcript of some lines. -/
def transcript (it : Interpreter) : List String → String
  | [] => ""
  | line :: rest =>
    let reply := it.evaluate line
    batchConsole.render reply.evaluation reply.next ++ transcript reply.next rest

/-- What a batch writes for some lines. -/
def batchOutput (it : Interpreter) (lines : List String) : BatchFormat → String
  | .text => transcript it lines
  | .json => Json.pretty (.list ((it.evaluateAll lines).1.map evaluationRecord)) ++ "\n"

/-- Evaluates the lines of a batch. -/
def exec (t : Terminal) (b : Batch) (d : Disk) (input : Bytes) : Outcome :=
  match batchLines b d input, BatchFormat.ofName b.format with
  | .error e, _ => { terminal := t, error := some e }
  | .ok _, .error e => { terminal := t, error := some e }
  | .ok lines, .ok format =>
    let (_, events, last) := t.interpreter.evaluateAll lines
    { output := batchOutput t.interpreter lines format, events, terminal := { t with interpreter := last } }

/-! ### All actions -/

/-- Carries out an action. -/
def execute (t : Terminal) (action : Action) (d : Disk) (input : Bytes) : Outcome :=
  match action with
  | .shell => t.shell input
  | .exec batch => t.exec batch d input
  | .banner => { output := Console.writeLines Banner.lines, terminal := t }

end Terminal

end TreeShell
