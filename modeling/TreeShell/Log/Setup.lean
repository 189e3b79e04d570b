import TreeShell.Disk
import TreeShell.Environment
import TreeShell.Log.Filter
import TreeShell.Log.Line
import TreeShell.Settings
/-!
# Setting up the log

The settings and the environment decide what is logged, in which format and where to; the environment has
the last word, and a filter of its own replaces the level and all modules. Everything is checked before the
disk is touched: the filter first, then the format, the output, and at last the file, which is opened only
if the output asks for it. Reading a directive may crash, and then nothing behind it is done.
-/

namespace TreeShell.Log

open Text

inductive Error where
  | badDirective (cause : Directive.Error)
  | badFormat (format : String)
  | badOutput (output : String)
  /-- No home directory is known, so neither is the directory for log files. -/
  | noStateDirectory
  | noDirectory (cause : Disk.Error)
  | cannotOpen (path : String) (cause : Disk.Error)
  deriving DecidableEq

def Error.message (e : Error) : String :=
  "Configuration error: " ++
    match e with
    | badDirective cause => "Invalid log directive: " ++ cause.message
    | badFormat format => "Invalid log format: " ++ format ++ " (must be 'json' or 'text')"
    | badOutput output => "Invalid log output: " ++ output ++ " (must be 'stderr', 'file', or 'file+stderr')"
    | noStateDirectory => "Could not determine platform state directory for log file"
    | noDirectory cause => "Failed to create log directory: " ++ cause.message
    | cannotOpen path cause => "Failed to open log file " ++ quoted path ++ ": " ++ cause.message

/-- Where log lines go. -/
structure Output where
  stderr : Bool
  file : Bool
  deriving DecidableEq

/-! ## What to log -/

/-- The level of one part of the program. -/
def addModule (f : Filter) (name level : String) : Except (Stop Error) Filter :=
  match Directive.parse (name ++ "=" ++ level) with
  | .ok d => .ok (f.add d)
  | .error (.failure e) => .error (.failure (.badDirective e))
  | .error .crash => .error .crash

def addModules (f : Filter) : List (String × String) → Except (Stop Error) Filter
  | [] => .ok f
  | (name, level) :: rest =>
    match addModule f name level with
    | .ok f => addModules f rest
    | .error stop => .error stop

/-- The modules that the environment names: `name=level` between commas, blanks around both dropped. -/
def environmentModules (env : Environment) : List (String × String) :=
  match env.get? "DCIB_LOG_MODULES" with
  | none => []
  | some text => (split ',' text).filterMap fun piece =>
    (cut '=' piece).map fun (name, level) => (trimmed name, trimmed level)

/-- The filter, and complaints about parts of the level that were left out. A filter of the environment's that
is not well formed is passed over, but it may crash. -/
def filterOf (s : Settings.Log) (env : Environment) : Except (Stop Error) Filter × List String :=
  match (env.get? "DCIB_LOG").map Filter.parse with
  | some (.ok f) => (.ok f, [])
  | some (.error .crash) => (.error .crash, [])
  | _ =>
    if s.level = "off" then (.ok .off, [])
    else match Filter.parseLenient s.level with
      | (some f, complaints) => (addModules f (s.modules ++ environmentModules env), complaints)
      | (none, complaints) => (.error .crash, complaints)

/-! ## How and where to log -/

def formatOfName? : String → Option Format
  | "text" => some .text
  | "json" => some .json
  | _ => none

/-- The format; the environment's is taken only if it is a format. -/
def formatOf (s : Settings.Log) (env : Environment) : Except Error Format :=
  match (env.get? "DCIB_LOG_FORMAT").bind formatOfName? with
  | some format => .ok format
  | none => match formatOfName? s.format with
    | some format => .ok format
    | none => .error (.badFormat s.format)

def outputOfName? : String → Option Output
  | "stderr" => some ⟨true, false⟩
  | "file" => some ⟨false, true⟩
  | "file+stderr" => some ⟨true, true⟩
  | _ => none

/-- The output; the environment's is taken whatever it is. -/
def outputOf (s : Settings.Log) (env : Environment) : Except Error Output :=
  let name := (env.get? "DCIB_LOG_OUTPUT").getD s.output
  match outputOfName? name with
  | some output => .ok output
  | none => .error (.badOutput name)

/-- The directory for what programs leave behind between runs, unless no home directory is known. -/
def stateDirectory? (env : Environment) : Option String :=
  ((env.nonempty? "HOME").or (env.accountHome.filter (· != ""))).map fun home =>
    match (env.get? "XDG_STATE_HOME").filter FilePath.isAbsolute with
    | some directory => directory
    | none => FilePath.join home ".local/state"

/-- The log file: the environment's, the one in the settings, or else one in the state directory. -/
def filePath (file : Option String) (env : Environment) : Except Error String :=
  match env.nonempty? "DCIB_LOG_FILE", file.filter (· != "") with
  | some path, _ => .ok path
  | none, some path => .ok path
  | none, none => match stateDirectory? env with
    | some directory => .ok (FilePath.join (FilePath.join directory "dcib-terminal") "terminal.log")
    | none => .error .noStateDirectory

/-! ## The log -/

/-- A log that is set up. -/
structure Logger where
  filter : Filter
  format : Format
  color : Bool
  stderr : Bool
  file : Option Disk.Place
  deriving DecidableEq

/-- A log that nothing goes into. -/
def Logger.silent : Logger := ⟨.off, .text, false, false, none⟩

/-- What setting up a log comes to: the log, what is wrong or a crash, complaints for the user, and the disk. -/
structure Setup where
  result : Except (Stop Error) Logger
  complaints : List String
  disk : Disk

/-- The checks that do not need the disk: filter, format and output. -/
def check (s : Settings.Log) (env : Environment) : Except (Stop Error) (Filter × Format × Output) := do
  let filter ← (filterOf s env).1
  let format ← (formatOf s env).mapError .failure
  let output ← (outputOf s env).mapError .failure
  pure (filter, format, output)

/-- Opens the log file, making the directories above it. -/
def openFile (d : Disk) (path : String) : Disk × Except Error Disk.Place :=
  match d.ensureParent path with
  | (d, .error e) => (d, .error (.noDirectory e))
  | (d, .ok ()) =>
    match d.openToAppend path with
    | .ok (d, place) => (d, .ok place)
    | .error e => (d, .error (.cannotOpen path e))

/-- Opens the log file that the settings and the environment name. -/
def openLog (s : Settings.Log) (env : Environment) (d : Disk) : Disk × Except Error Disk.Place :=
  match filePath s.file env with
  | .ok path => openFile d path
  | .error e => (d, .error e)

/-- Sets up the log. Only lines of text that go to the standard error alone are coloured. -/
def setUp (s : Settings.Log) (env : Environment) (d : Disk) : Setup :=
  if !s.enabled then ⟨.ok .silent, [], d⟩
  else
    let complaints := (filterOf s env).2
    match check s env with
    | .error stop => ⟨.error stop, complaints, d⟩
    | .ok (filter, format, output) =>
      let color := s.color && !output.file && format = .text
      if output.file then
        match openLog s env d with
        | (d, .ok place) => ⟨.ok ⟨filter, format, color, output.stderr, some place⟩, complaints, d⟩
        | (d, .error e) => ⟨.error (.failure e), complaints, d⟩
      else ⟨.ok ⟨filter, format, color, output.stderr, none⟩, complaints, d⟩

namespace Logger

/-- The lines of the events that are logged, one text for all. -/
def lines (l : Logger) (time : String) (events : List Event) : String :=
  String.join ((events.filter l.filter.admits).map (line l.format l.color time))

/-- Logs events: what goes to the standard error, and the disk with the file's new lines. -/
def log (l : Logger) (time : String) (events : List Event) (d : Disk) : String × Disk :=
  let text := l.lines time events
  (if l.stderr then text else "",
    match l.file with
    | some place => d.append place (Utf8.encodeString text)
    | none => d)

end Logger

end TreeShell.Log
