import TreeShell.Settings
/-!
# The command line

Options come first, then the action, then the action's own options and arguments. `CommandLine.parse` reads
the arguments from left to right; an option that waits for its value takes the next argument, unless that
looks like an option itself. `CommandLine.applyTo` puts what was given on top of settings.
-/

namespace TreeShell

open Text

/-- What to evaluate without a user, and how to show it. -/
structure Batch where
  /-- The lines to evaluate. -/
  lines : List String := []
  /-- A file to take the lines from instead. -/
  script : Option String := none
  /-- `text` or `json`. -/
  format : String := "text"
  deriving DecidableEq, Inhabited

/-- What a terminal is started for. -/
inductive Action where
  | shell
  | exec (batch : Batch)
  | banner
  deriving DecidableEq

/-- What the arguments say. -/
structure CommandLine where
  action : Option Action := none
  config : Option String := none
  tree : Option String := none
  home : Option String := none
  noColor : Bool := false
  verbose : Bool := false
  logLevel : Option String := none
  logFormat : Option String := none
  logOutput : Option String := none
  logFile : Option String := none
  deriving DecidableEq, Inhabited

namespace CommandLine

/-- Why arguments are not carried out. -/
inductive Refusal where
  | unknownArgument
  | invalidSubcommand
  /-- An option without its value, or without a path as its value. -/
  | invalidValue
  /-- An option given twice, or two that exclude each other. -/
  | argumentConflict
  /-- A value for an option that takes none. -/
  | tooManyValues
  /-- Help was asked for. -/
  | displayHelp
  deriving DecidableEq

/-- What an option takes. -/
inductive Takes where
  | nothing
  | text
  /-- A path, which may not be empty. -/
  | path
  deriving DecidableEq

structure Switch where
  name : String
  takes : Takes
  deriving DecidableEq

/-- The options before the action. -/
def generalSwitches : List Switch :=
  [⟨"config", .path⟩, ⟨"tree", .path⟩, ⟨"home", .text⟩, ⟨"no-color", .nothing⟩, ⟨"verbose", .nothing⟩,
    ⟨"log-level", .text⟩, ⟨"log-format", .text⟩, ⟨"log-output", .text⟩, ⟨"log-file", .path⟩]

/-- The options of a batch. -/
def batchSwitches : List Switch := [⟨"script", .path⟩, ⟨"format", .text⟩]

/-! ## Options on the way -/

/-- An option whose value is not checked yet, and the value if it has one. -/
structure Pending where
  switch : Switch
  value : Option String

/-- The options and words read so far. -/
structure Progress where
  given : List (String × String) := []
  pending : Option Pending := none
  words : List String := []

namespace Progress

/-- Whether an option waits for its value. -/
def waits (p : Progress) : Bool :=
  match p.pending with
  | some ⟨_, none⟩ => true
  | _ => false

/-- The value of an option. -/
def value? (p : Progress) (name : String) : Option String :=
  (p.given.find? fun entry => entry.1 = name).map Prod.snd

def has (p : Progress) (name : String) : Bool := (p.value? name).isSome

/-- Notes an option with its value. -/
def note (p : Progress) (switch : Switch) (value : String) : Except Refusal Progress :=
  if p.has switch.name then .error .argumentConflict
  else if switch.takes = .path ∧ value = "" then .error .invalidValue
  else .ok { p with given := p.given ++ [(switch.name, value)] }

/-- Checks the option that was read last. -/
def settle (p : Progress) : Except Refusal Progress :=
  match p.pending with
  | none => .ok p
  | some ⟨_, none⟩ => .error .invalidValue
  | some ⟨switch, some value⟩ => { p with pending := none }.note switch value

/-- Reads a long option, its leading hyphens removed. -/
def readLong (p : Progress) (switches : List Switch) (option : String) : Except Refusal Progress :=
  let (name, value) := match cut '=' option with
    | some (name, value) => (name, some value)
    | none => (option, none)
  match (⟨"help", .nothing⟩ :: switches).find? fun switch => switch.name = name with
  | none => .error .unknownArgument
  | some switch =>
    match switch.takes, value with
    | .nothing, some _ => .error .tooManyValues
    | .nothing, none => do
      let p ← p.settle
      if name = "help" then .error .displayHelp else p.note switch ""
    | _, some value => do
      let p ← p.settle
      p.note switch value
    | _, none => do
      let p ← p.settle
      pure { p with pending := some ⟨switch, none⟩ }

/-- Reads short options; the only one asks for help. -/
def readShort (p : Progress) (first : Char) : Except Refusal Progress :=
  if first = 'h' then do
    let _ ← p.settle
    .error .displayHelp
  else .error .unknownArgument

/-- Gives the waiting option its value. -/
def giveValue (p : Progress) (value : String) : Progress :=
  match p.pending with
  | some ⟨switch, none⟩ => { p with pending := some ⟨switch, some value⟩ }
  | _ => p

end Progress

/-- What an argument looks like. -/
inductive Shape where
  /-- Two hyphens alone: all that follows is words. -/
  | separator
  | long (option : String)
  | short (first : Char)
  | word
  deriving DecidableEq

def shapeOf (arg : String) : Shape :=
  match arg.toList with
  | ['-', '-'] => .separator
  | '-' :: '-' :: option => .long (String.ofList option)
  | '-' :: c :: _ => .short c
  | _ => .word

/-! ## Actions -/

def actionNames : List String := ["shell", "exec", "banner"]

/-- The word that asks for help on an action. -/
def helpWord : String := "help"

/-- The answer to a request for help with some words behind it. -/
def refusalOfHelp : List String → Refusal
  | [] => .displayHelp
  | [name] => if name = helpWord ∨ name ∈ actionNames then .displayHelp else .invalidSubcommand
  | _ => .invalidSubcommand

/-- Reads the arguments behind an action, given its options and whether it takes words. -/
def readAction (switches : List Switch) (takesWords : Bool) (onlyWords : Bool) (p : Progress) :
    List String → Except Refusal Progress
  | [] => p.settle
  | arg :: rest =>
    let readWord := fun (p : Progress) =>
      if takesWords then do
        let p ← p.settle
        pure { p with words := p.words ++ [arg] }
      else .error .unknownArgument
    if onlyWords then do
      let p ← readWord p
      readAction switches takesWords onlyWords p rest
    else
      match shapeOf arg with
      | .separator => readAction switches takesWords true p rest
      | .long option => do
        let p ← p.readLong switches option
        readAction switches takesWords false p rest
      | .short first => do
        let p ← p.readShort first
        readAction switches takesWords false p rest
      | .word =>
        if p.waits then readAction switches takesWords false (p.giveValue arg) rest
        else do
          let p ← readWord p
          readAction switches takesWords false p rest

/-- The action of a name and of the arguments behind it. -/
def actionOf (name : String) (args : List String) : Except Refusal Action :=
  if name = "exec" then do
    let p ← readAction batchSwitches true false {} args
    if p.has "script" && !p.words.isEmpty then .error .argumentConflict
    else
      let batch : Batch := {}
      pure (.exec ⟨p.words, p.value? "script", (p.value? "format").getD batch.format⟩)
  else do
    let _ ← readAction [] false false {} args
    pure (if name = "banner" then .banner else .shell)

/-! ## The whole line -/

/-- A word that is no value where the action is expected. Behind the separator it is refused, in one way if
it names an action and in another if it does not. -/
def refusalOfWord (onlyWords : Bool) (word : String) : Refusal :=
  if onlyWords && (word = helpWord || actionNames.contains word) then .unknownArgument else .invalidSubcommand

/-- Reads the options before the action, and the action. -/
def readGeneral (onlyWords : Bool) (p : Progress) : List String → Except Refusal (Progress × Option Action)
  | [] => do
    let p ← p.settle
    pure (p, none)
  | arg :: rest =>
    if onlyWords then .error (refusalOfWord true arg)
    else
      match shapeOf arg with
      | .separator => readGeneral true p rest
      | .long option => do
        let p ← p.readLong generalSwitches option
        readGeneral false p rest
      | .short first => do
        let p ← p.readShort first
        readGeneral false p rest
      | .word =>
        if p.waits then readGeneral false (p.giveValue arg) rest
        else if arg = helpWord then .error (refusalOfHelp rest)
        else if actionNames.contains arg then do
          let action ← actionOf arg rest
          let p ← p.settle
          pure (p, some action)
        else .error (refusalOfWord false arg)

/-- What some arguments say. -/
def parse (args : List String) : Except Refusal CommandLine := do
  let (p, action) ← readGeneral false {} args
  pure
    { action
      config := p.value? "config"
      tree := p.value? "tree"
      home := p.value? "home"
      noColor := p.has "no-color"
      verbose := p.has "verbose"
      logLevel := p.value? "log-level"
      logFormat := p.value? "log-format"
      logOutput := p.value? "log-output"
      logFile := p.value? "log-file" }

/-- What is shown to a user who asks for help or whose arguments are refused. -/
def usage : String :=
  "Usage: dcib-terminal [OPTIONS] [shell | exec [--script <FILE>] [--format <text|json>] [LINES]... | banner]\n" ++
    "Options: --config <FILE> --tree <FILE> --home <PATH> --no-color --verbose --log-level <LEVEL>\n" ++
    "         --log-format <json|text> --log-output <stderr|file|file+stderr> --log-file <FILE>\n"

/-! ## Settings -/

/-- Puts the options on top of settings. Asking for a verbose log sets its level, unless a level is
given. -/
def applyTo (c : CommandLine) (s : Settings) : Settings :=
  { session :=
      { s.session with
        treeFile := c.tree.or s.session.treeFile
        home := (c.home.map Path.ofText).getD s.session.home
        color := if c.noColor then false else s.session.color }
    log :=
      { s.log with
        color := if c.noColor then false else s.log.color
        level := c.logLevel.getD (if c.verbose then "debug" else s.log.level)
        format := c.logFormat.getD s.log.format
        output := c.logOutput.getD s.log.output
        file := c.logFile.or s.log.file } }

end CommandLine

end TreeShell
