import TreeShell.Banner
import TreeShell.Event
import TreeShell.Session
/-!
# The interpreter

An `Interpreter` is a session over a tree together with the names that its prompt shows. `evaluate` takes
one line and gives a `Reply`: what to show, the events to report, and the interpreter afterwards. Each command
gives the session afterwards beside its answer or failure, and a failure is one line of output.
-/

namespace TreeShell

open Text

/-- What to show after one line. -/
structure Evaluation where
  /-- The prompt before the line, a space, and the line without the blanks around it. -/
  echo : String
  /-- The output, of which a file's text is one element whatever newlines it holds. -/
  output : List String
  /-- Whether the location changed. -/
  moved : Bool
  /-- Whether to drop what was shown before and show the startup screen. -/
  clears : Bool
  deriving DecidableEq, Inhabited

/-- The echoed prompt and then the output. -/
def Evaluation.transcript (e : Evaluation) : List String := e.echo :: e.output

/-- What a command gives when it is carried out. -/
structure Answer where
  lines : List String
  events : List Event := []
  deriving DecidableEq

/-- How a request ends: with an answer or a failure, and with the session afterwards in either case. -/
structure Ending where
  session : Session
  result : Except CommandError Answer

namespace Ending

/-- The lines that the user sees. -/
def lines (e : Ending) : List String :=
  match e.result with
  | .ok answer => answer.lines
  | .error e => [e.message]

/-- What is reported of a request: what its command reports, and behind that how it ended. -/
def events (e : Ending) (name : String) : List Event :=
  match e.result with
  | .ok answer => answer.events ++ [.succeeded name answer.lines.length]
  | .error e => [.failed name e]

end Ending

/-- A session over a tree. -/
structure Interpreter where
  tree : Tree
  user : String
  host : String
  session : Session
  deriving DecidableEq

/-- The outcome of one line. -/
structure Reply where
  evaluation : Evaluation
  events : List Event
  next : Interpreter
  deriving DecidableEq

namespace Interpreter

/-- A session at a home, which must be a directory of the tree; the error is the home otherwise. -/
def opened (tree : Tree) (user host : String) (home : Path) : Except Path Interpreter :=
  if tree.isDirectory home then .ok ⟨tree, user, host, .opened home⟩ else .error home

/-- The prompt without the space behind it. -/
def prompt (it : Interpreter) : String := it.user ++ "@" ++ it.host ++ ":" ++ it.session.shownPath ++ "$"

/-- The banner and the prompt. -/
def startupLines (it : Interpreter) : List String := Banner.lines ++ [it.prompt]

/-- A typed path against the session's location and home. -/
def resolve (it : Interpreter) (raw : String) : Path := Path.resolve raw it.session.current it.session.home

/-! ## The commands -/

/-- Lists the current directory on one line; the only option is `-a`, which shows hidden names. -/
def ls (it : Interpreter) (args : List String) : Ending :=
  match args.find? fun arg => arg != "-a" with
  | some option => ⟨it.session, .error (.unsupportedOption .ls option)⟩
  | none =>
    match it.tree.directory it.session.current with
    | .ok dir =>
      let names := if args.isEmpty then dir.visibleNames else dir.names
      ⟨it.session, .ok { lines := [join "  " names] }⟩
    | .error e => ⟨it.session, .ok { lines := [""], events := [.misplaced e] }⟩

/-- Moves to a directory; without a target, with an empty one and with `~` the session goes home. -/
def cd (it : Interpreter) (target : Option String) : Ending :=
  match target with
  | none | some "" | some "~" => ⟨it.session.reset, .ok { lines := [] }⟩
  | some target =>
    let path := it.resolve target
    match it.tree.lookup path with
    | .ok (.directory _) => ⟨it.session.moveTo path, .ok { lines := [] }⟩
    | .ok (.file _) => ⟨it.session, .error (.notADirectory target)⟩
    | .error _ => ⟨it.session, .error (.pathNotFound target)⟩

/-- Shows a file's text. -/
def cat (it : Interpreter) (target : Option String) : Ending :=
  match target with
  | none => ⟨it.session, .error (.missingOperand .cat)⟩
  | some target =>
    match it.tree.lookup (it.resolve target) with
    | .ok (.file content) => ⟨it.session, .ok { lines := [content] }⟩
    | .ok (.directory _) => ⟨it.session, .error (.notAFile target)⟩
    | .error _ => ⟨it.session, .error (.fileNotFound target)⟩

/-- Carries out a command. `cd` and `cat` read one argument, `pwd` and `clear` none. -/
def dispatch (it : Interpreter) (command : Command) (args : List String) : Ending :=
  match command with
  | .ls => it.ls args
  | .cd => it.cd args.head?
  | .cat => it.cat args.head?
  | .pwd => ⟨it.session, .ok { lines := [it.session.current.text] }⟩
  | .clear => ⟨it.session, .ok { lines := [] }⟩

/-- Carries out the command that a line names. -/
def invoke (it : Interpreter) (request : Request) : Ending :=
  match Command.ofName request.name with
  | .ok command => it.dispatch command request.args
  | .error e => ⟨it.session, .error e⟩

/-! ## One line -/

/-- The reply to a line whose words are known. Whether it moved is told by the session afterwards, and whether to
clear by its command alone. -/
def reply (it : Interpreter) (echo : String) (request : Request) : Reply :=
  let ending := it.invoke request
  let moved := ending.session.current != it.session.current
  let move := if moved then [Event.moved it.session.current ending.session.current] else []
  { evaluation := ⟨echo, ending.lines, moved, (Command.ofName request.name).toOption == some .clear⟩
    events := ending.events request.name ++ move
    next := { it with session := ending.session } }

/-- Evaluates one line. A blank one is only echoed. -/
def evaluate (it : Interpreter) (raw : String) : Reply :=
  let line := trimmed raw
  let echo := it.prompt ++ " " ++ line
  match Request.ofLine line with
  | none => { evaluation := ⟨echo, [], false, false⟩, events := [], next := it }
  | some request => it.reply echo request

/-- Evaluates lines one after the other: the evaluations, all events, and the interpreter afterwards. -/
def evaluateAll (it : Interpreter) : List String → List Evaluation × List Event × Interpreter
  | [] => ([], [], it)
  | line :: lines =>
    let reply := it.evaluate line
    let (evaluations, events, last) := reply.next.evaluateAll lines
    (reply.evaluation :: evaluations, reply.events ++ events, last)

end Interpreter

end TreeShell
