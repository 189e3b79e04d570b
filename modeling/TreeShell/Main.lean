import Std.Time
import TreeShell.Program
/-!
# The executable

Gathers what the program reads, hands it to `Program`, and carries out what comes back. A shell is served
line by line, so that a user sees each answer before typing on.
-/

namespace TreeShell.Main

open Text

/-! ## The disk -/

/-- The path of a place from the root. -/
def pathOf (place : Disk.Place) : String := "/" ++ Text.join "/" place

/-- Adds to a disk what the file system holds at a place, if anything. -/
def probe (d : Disk) (place : Disk.Place) : IO Disk := do
  let path := (← IO.currentDir) / pathOf place
  if (d.entryAt? place).isSome then pure d
  else
    try
      if ← path.isDir then pure (d.add place (.directory []))
      else pure (d.add place (.file (← IO.FS.readBinFile path).toList))
    catch _ => pure d

/-- Adds to a disk what lies along a path. -/
def probePath (d : Disk) (path : String) : IO Disk := do
  let step := fun (state : Disk × Disk.Place) (name : String) => do
    let (d, place) := state
    let place := if name = ".." then place.dropLast else place ++ [name]
    pure (← probe d place, place)
  let start := if FilePath.isAbsolute path then [] else d.workingDirectory
  let (d, _) ← (FilePath.names path).foldlM step (d, start)
  pure d

def probeAll (d : Disk) (paths : List String) : IO Disk := paths.foldlM probePath d

/-- The files that a configuration may be read from. -/
def configPaths (c : CommandLine) (env : Environment) : List String :=
  let given := (Config.accountFile env).toOption.toList ++ c.config.toList
  given ++ given.flatMap fun path =>
    Config.Format.all.flatMap fun format => format.extensions.map (Config.withExtension path)

/-- The files that the settings and the action ask for. -/
def settingsPaths (c : CommandLine) (s : Settings) (env : Environment) : List String :=
  let script := match c.action with
    | some (.exec batch) => batch.script.toList
    | _ => []
  s.session.treeFile.toList ++ script ++ (Log.filePath s.log.file env).toOption.toList

/-- Writes to the file system what a disk has gained. -/
def store (before after : Disk) : IO Unit := do
  let here ← IO.currentDir
  for (place, entry) in Disk.contentsOf [] after.root do
    match entry, before.entryAt? place with
    | .directory _, some _ => pure ()
    | .directory _, none => IO.FS.createDirAll (here / pathOf place)
    | .file content, some (.file old) =>
      if content.length != old.length then append (here / pathOf place) (content.drop old.length)
    | .file content, _ => append (here / pathOf place) content
where
  /-- Writes bytes at the end of a file. -/
  append path bytes := do
    let handle ← IO.FS.Handle.mk path .append
    handle.write ⟨bytes.toArray⟩

/-! ## Input and time -/

/-- The rest of a line, its newline included. -/
partial def readLine (input : IO.FS.Stream) (line : Array UInt8) : IO Bytes := do
  let read ← input.read 1
  match read.toList with
  | [] => pure line.toList
  | b :: _ => if b = newline then pure (line.push b).toList else readLine input (line.push b)

/-- All lines that are left. -/
partial def readAll (input : IO.FS.Stream) (lines : Array Bytes) : IO Bytes := do
  match ← readLine input #[] with
  | [] => pure lines.toList.flatten
  | line => readAll input (lines.push line)

/-- The time now, for log lines. -/
def time : IO String := do
  let now := Std.Time.DateTime.ofTimestamp (← Std.Time.Timestamp.now) Std.Time.TimeZone.ZoneRules.UTC
  pure (now.format "uuuu-MM-dd'T'HH:mm:ss.SSSSSSSSSxxx")

/-! ## Running -/

def writeTo (stream : IO.FS.Stream) (text : String) : IO Unit := do
  stream.putStr text
  stream.flush

/-- Carries out what the program leaves behind. -/
def leave (before : Disk) (finish : Program.Finish) : IO UInt32 := do
  store before finish.disk
  writeTo (← IO.getStdout) finish.stdout
  writeTo (← IO.getStderr) finish.stderr
  pure (UInt32.ofNat finish.code)

/-- Logs the events of one line. -/
def logEvents (ready : Program.Ready) (events : List Event) : IO Program.Ready := do
  let (written, d) := ready.logger.log (← time) events ready.disk
  store ready.disk d
  writeTo (← IO.getStderr) written
  pure { ready with disk := d }

/-- Serves a shell until its input ends. -/
partial def serve (ready : Program.Ready) (input : IO.FS.Stream) : IO UInt32 := do
  let line ← readLine input #[]
  let o := match line with
    | [] => ready.terminal.shellLoop []
    | line => match Utf8.decodeString line with
      | none => ready.terminal.shellLoop [line]
      | some text => (ready.terminal.shellLine text).after ready.terminal.shellPrompt []
  -- the prompt is on the screen already
  writeTo (← IO.getStdout) ((after? ready.terminal.shellPrompt o.output).getD "")
  let next ← logEvents { ready with terminal := o.terminal } o.events
  match o.error with
  | some e =>
    writeTo (← IO.getStderr) (Program.errorLine "" e.message e.cause?)
    pure 1
  | none =>
    if line.isEmpty then pure 0
    else
      writeTo (← IO.getStdout) o.terminal.shellPrompt
      serve next input

/-- Runs the program for arguments that are carried out. -/
def carryOut (c : CommandLine) (args : List String) : IO UInt32 := do
  let environment : Environment :=
    { bindings := Environment.ofBlock (← IO.FS.readBinFile "/proc/self/environ").toList }
  let workingDirectory := FilePath.names (← IO.currentDir).toString
  let d ← probeAll (.empty workingDirectory) (configPaths c environment)
  let d ← match Program.settingsOf .own c environment d with
    | .ok s => probeAll d (settingsPaths c s environment)
    | .error _ => pure d
  match Program.prepare .own c ⟨args, environment, d, ← time⟩ with
  | .error finish => leave d finish
  | .ok ready =>
    let input ← IO.getStdin
    match ready.action with
    | .shell =>
      store d ready.disk
      writeTo (← IO.getStderr) ready.stderr
      writeTo (← IO.getStdout) (ready.terminal.shellStart ++ ready.terminal.shellPrompt)
      serve ready input
    | action =>
      let needsInput := match action with
        | .exec batch => batch.script.isNone && batch.lines.isEmpty
        | _ => false
      let bytes ← if needsInput then readAll input #[] else pure []
      leave d (ready.finish (← time) (ready.terminal.execute action ready.disk bytes))

end TreeShell.Main

def main (args : List String) : IO UInt32 := do
  match TreeShell.CommandLine.parse args with
  | .error refusal =>
    let stream ← match refusal with
      | .displayHelp => IO.getStdout
      | _ => IO.getStderr
    stream.putStr TreeShell.CommandLine.usage
    pure (UInt32.ofNat (TreeShell.Program.codeOf refusal))
  | .ok c => TreeShell.Main.carryOut c args
