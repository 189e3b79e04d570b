import TreeShell.Document
import TreeShell.Path
/-!
# Settings

What a terminal is told before it starts: who sits where, which tree to show, and how to keep a log. Every
setting has a default, so that a document names only what differs.
-/

namespace TreeShell

/-- The settings of a session. -/
structure Settings.Session where
  user : String := "recruit"
  host : String := "dcib"
  home : Path := .ofTokens ["home", "recruit"]
  /-- A manifest whose tree replaces the built-in one. -/
  treeFile : Option String := none
  /-- Whether the prompt is coloured. -/
  color : Bool := true
  deriving DecidableEq, Inhabited

/-- The settings of the log. -/
structure Settings.Log where
  enabled : Bool := true
  /-- What is logged: a level, or a filter for the parts of the terminal. -/
  level : String := "info"
  /-- `text` or `json`. -/
  format : String := "text"
  /-- `stderr`, `file` or `file+stderr`. -/
  output : String := "file"
  file : Option String := none
  color : Bool := true
  /-- Levels of single parts of the terminal, each named once. -/
  modules : List (String × String) := []
  deriving DecidableEq, Inhabited

structure Settings where
  session : Settings.Session := {}
  log : Settings.Log := {}
  deriving DecidableEq, Inhabited

namespace Document

/-- A path in a document is the text of the path. -/
def asPath? (d : Document) : Option Path := d.asText?.map Path.ofText

/-- A text that may be null. -/
def asOptionalText? : Document → Option (Option String)
  | .null => some none
  | .text value => some (some value)
  | _ => none

/-- A record of texts; of a repeated key the last value counts. -/
def asTexts? : Document → Option (List (String × String))
  | .record fields => fields.foldlM (fun texts (key, value) =>
      value.asText?.map fun text => texts.filter (fun entry => entry.1 != key) ++ [(key, text)]) []
  | _ => none

end Document

open Document

/-- The settings that a document stands for. -/
def Settings.Session.ofDocument? (d : Document) : Option Settings.Session :=
  let defaults : Settings.Session := {}
  match d.parts? ["user", "host", "home", "tree_file", "color"] with
  | some [user, host, home, treeFile, color] => do
    let user ← read? defaults.user asText? user
    let host ← read? defaults.host asText? host
    let home ← read? defaults.home asPath? home
    let treeFile ← read? defaults.treeFile asOptionalText? treeFile
    let color ← read? defaults.color asBool? color
    some { user, host, home, treeFile, color }
  | _ => none

@[inherit_doc Settings.Session.ofDocument?]
def Settings.Log.ofDocument? (d : Document) : Option Settings.Log :=
  let defaults : Settings.Log := {}
  match d.parts? ["enabled", "level", "format", "output", "file", "color", "modules"] with
  | some [enabled, level, format, output, file, color, modules] => do
    let enabled ← read? defaults.enabled asBool? enabled
    let level ← read? defaults.level asText? level
    let format ← read? defaults.format asText? format
    let output ← read? defaults.output asText? output
    let file ← read? defaults.file asOptionalText? file
    let color ← read? defaults.color asBool? color
    let modules ← read? defaults.modules asTexts? modules
    some { enabled, level, format, output, file, color, modules }
  | _ => none

@[inherit_doc Settings.Session.ofDocument?]
def Settings.ofDocument? (d : Document) : Option Settings :=
  match d.parts? ["terminal", "logging"] with
  | some [session, log] => do
    let session ← read? {} Settings.Session.ofDocument? session
    let log ← read? {} Settings.Log.ofDocument? log
    some { session, log }
  | _ => none

end TreeShell
