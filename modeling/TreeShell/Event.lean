import TreeShell.Command
import TreeShell.Tree
/-!
# Events

What a terminal reports about its own work, apart from what it shows to the user. Each kind of event has
a level, a target (the part of the terminal that reports it), a message, and named fields.
-/

namespace TreeShell

/-- How urgent an event is, most urgent first. -/
inductive Level where
  | error | warn | info | debug | trace
  deriving DecidableEq

namespace Level

def name : Level → String
  | error => "ERROR"
  | warn => "WARN"
  | info => "INFO"
  | debug => "DEBUG"
  | trace => "TRACE"

/-- Rank by wordiness: `error` is 1 and `trace` is 5. -/
def rank : Level → Nat
  | error => 1
  | warn => 2
  | info => 3
  | debug => 4
  | trace => 5

end Level

/-- The value of an event's field. A `word` is what a user typed, a `plain` text is shown as it is. -/
inductive FieldValue where
  | word (text : String)
  | plain (text : String)
  | count (n : Nat)
  deriving DecidableEq

inductive Event where
  /-- The session stands at a location that is no directory. -/
  | misplaced (error : LookupError)
  | succeeded (command : String) (lines : Nat)
  | failed (command : String) (error : CommandError)
  | moved (origin destination : Path)
  | loadingManifest (path : String)
  | inputClosed
  deriving DecidableEq

namespace Event

def level : Event → Level
  | misplaced _ => .error
  | succeeded _ _ => .debug
  | failed _ _ => .debug
  | moved _ _ => .info
  | loadingManifest _ => .info
  | inputClosed => .info

def message : Event → String
  | misplaced _ => "session location is not a directory"
  | succeeded _ _ => "command succeeded"
  | failed _ _ => "command failed"
  | moved _ _ => "changed directory"
  | loadingManifest _ => "loading tree manifest"
  | inputClosed => "input closed, ending session"

def target : Event → String
  | loadingManifest _ => "dcib_terminal::tooling::cli"
  | inputClosed => "dcib_terminal::tooling::cli"
  | _ => "dcib_terminal::interpreter"

def fields : Event → List (String × FieldValue)
  | misplaced error => [("error", .plain error.message)]
  | succeeded command lines => [("command", .word command), ("lines", .count lines)]
  | failed command error => [("command", .word command), ("error", .plain error.message)]
  | moved origin destination => [("from", .plain origin.text), ("to", .plain destination.text)]
  | loadingManifest path => [("path", .plain path)]
  | inputClosed => []

end Event

end TreeShell
