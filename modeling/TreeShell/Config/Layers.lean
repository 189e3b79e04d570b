import TreeShell.Config.KeyPath
import TreeShell.Config.Section
import TreeShell.Environment
import TreeShell.Json.Reader
import TreeShell.Manifest.File
import TreeShell.Toml.DateTable
import TreeShell.Toml.Reader
/-!
# Layers of a configuration

Above the defaults, which give most fields a value, lie from the bottom up the file of the user's account,
which may be missing, the file named on the command line, which may not, and the environment. `Config.load`
merges them and gives the settings.
-/

namespace TreeShell.Config

open Text Number

/-- The values that a layer sets, each under the text of a key path. -/
abbrev Layer := List (String × Value)

/-- Puts the values of a layer on top of a configuration. -/
def Value.addLayer (root : Value) (layer : Layer) : Value :=
  layer.foldl (fun root (key, value) => root.setAt (.ofText key) value) root

/-! ## The defaults -/

/-- The value of a default. -/
def defaultText (text : String) : Value := .scalar none (.text text)

@[inherit_doc defaultText]
def defaultBool (b : Bool) : Value := .scalar none (.bool b)

/-- The fields that have a value from the start. The others have their default when nothing sets them. -/
def defaultLayer : Layer :=
  let session : Settings.Session := {}
  let log : Settings.Log := {}
  [("terminal.user", defaultText session.user), ("terminal.host", defaultText session.host),
    ("terminal.home", defaultText session.home.text), ("terminal.color", defaultBool session.color),
    ("logging.enabled", defaultBool log.enabled), ("logging.level", defaultText log.level),
    ("logging.format", defaultText log.format), ("logging.output", defaultText log.output)]

/-! ## The environment -/

/-- What a variable of the configuration starts with, in lower case. -/
def variableStart : String := "dcib__"

/-- Replaces doubled underlines by points, from left to right. -/
def pointed : List Char → List Char
  | '_' :: '_' :: cs => '.' :: pointed cs
  | c :: cs => c :: pointed cs
  | [] => []

/-- The origin of values from the environment. -/
def environmentOrigin : String := "the environment"

/-- The value of a variable: a truth value, an integer, a number, or else its text. -/
def valueOfVariable (text : String) : Value :=
  .scalar (some environmentOrigin) <|
    if lower text = "true" then .bool true
    else if lower text = "false" then .bool false
    else match integer? text with
      | some n => .integer n
      | none => match Binary64.ofText? text with
        | some x => .real x
        | none => .text text

/-- The layer of the variables whose names start like those of the configuration, whatever their case. -/
def environmentLayer (env : Environment) : Layer :=
  env.bindings.filterMap fun (name, value) =>
    (after? variableStart (lower name)).map fun key =>
      (String.ofList (pointed key.toList), valueOfVariable value)

/-! ## Files -/

/-- The formats that a file may have. -/
inductive Format where
  | toml
  | json
  | yaml
  | ini
  | ron
  | json5
  deriving DecidableEq

namespace Format

def extensions : Format → List String
  | toml => ["toml"]
  | json => ["json"]
  | yaml => ["yaml", "yml"]
  | ini => ["ini"]
  | ron => ["ron"]
  | json5 => ["json5"]

def all : List Format := [toml, json, yaml, ini, ron, json5]

theorem mem_all (format : Format) : format ∈ all := by
  cases format <;> decide

end Format

/-- How texts of the formats are read that have no reader of their own here, and the order in which formats are
tried, which may be any. -/
structure Readers where
  yaml : String → Option Document
  ini : String → Option Document
  ron : String → Option Document
  json5 : String → Option Document
  order : List Format
  mem_order : ∀ format, format ∈ order

namespace Readers

/-- Without readers of other formats their texts are all malformed. -/
def own : Readers where
  yaml _ := none
  ini _ := none
  ron _ := none
  json5 _ := none
  order := Format.all
  mem_order := Format.mem_all

/-- The document of a text, all of which must be readable. In TOML a table may stand for a date. -/
def read? (r : Readers) : Format → String → Option Document
  | .toml, text => (Toml.read? text).bind Toml.withDates?
  | .json, text => (Json.read? text).filter fun d => d.isReadable Json.nestingLimit
  | .yaml, text => r.yaml text
  | .ini, text => r.ini text
  | .ron, text => r.ron text
  | .json5, text => r.json5 text

end Readers

/-- The path with an extension added to it. -/
def withExtension (path extension : String) : String := FilePath.trimEnd path ++ "." ++ extension

/-- The file that a path names: itself, if it is a file with a known extension, or else the path with an
extension added. -/
def findFile (r : Readers) (d : Disk) (path : String) : Except Error (String × Format) :=
  if d.isFile path then
    match r.order.find? fun format => format.extensions.any fun e => some e = FilePath.extension? path with
    | some format => .ok (path, format)
    | none => .error (.unknownFormat path)
  else
    let candidates := r.order.flatMap fun format => format.extensions.map fun e => (withExtension path e, format)
    match candidates.find? fun (file, _) => (FilePath.fileName? path).isSome && d.isFile file with
    | some found => .ok found
    | none => .error (.missingFile path)

/-- The text of a configuration file, its name in messages, and its format. -/
def openFile (r : Readers) (d : Disk) (path : String) : Except Error (String × String × Format) :=
  match findFile r d path with
  | .error e => .error e
  | .ok (file, format) =>
    match d.readText file with
    | .error e => .error (.unreadable e)
    | .ok text => .ok (text, FilePath.normalized file, format)

/-- The layer of a configuration text. -/
def layerOfText (r : Readers) (text origin : String) (format : Format) : Except Error Layer :=
  match r.read? format text with
  | some (.record fields) => .ok (Value.ofFields (some origin) fields [])
  | _ => .error (.malformed origin)

/-- The layer of a file that has to be there. -/
def requiredLayer (r : Readers) (d : Disk) (path : String) : Except Error Layer :=
  match openFile r d path with
  | .error e => .error e
  | .ok (text, origin, format) => layerOfText r text origin format

/-- The layer of a file that need not be there or be readable, but be well formed if it is. -/
def optionalLayer (r : Readers) (d : Disk) (path : String) : Except Error Layer :=
  match openFile r d path with
  | .error _ => .ok []
  | .ok (text, origin, format) => layerOfText r text origin format

/-! ## The account's file -/

/-- The directory of the account's configuration, unless the environment does not tell. -/
def homeDirectory (env : Environment) : Except Error String :=
  match env.nonempty? "XDG_CONFIG_HOME", env.get? "HOME" with
  | some directory, _ => .ok directory
  | none, some home => .ok (FilePath.join home ".config")
  | none, none => .error .homeUnknown

/-- The account's configuration file. -/
def accountFile (env : Environment) : Except Error String :=
  (homeDirectory env).map fun home => FilePath.join (FilePath.join home "dcib") "config.toml"

/-! ## All layers -/

/-- Some layers as one, given the lowest first. -/
def merged (layers : List Layer) : Layer := (layers.foldl Value.addLayer Value.emptyTable).entries

/-- The settings of some layers, given the lowest first. They are merged before they come on top of the
defaults, so a key of theirs counts as a path once more, and a table without entries leaves a default. -/
def settingsOf (layers : List Layer) : Except Error Settings :=
  ([defaultLayer, merged layers].foldl Value.addLayer Value.emptyTable).toSettings

/-- The settings of the account's file, a given file, and the environment. -/
def load (r : Readers) (d : Disk) (env : Environment) (path : Option String) : Except Error Settings := do
  let account ← match accountFile env with
    | .ok file => optionalLayer r d file
    | .error _ => .ok []
  let given ← match path with
    | some file => requiredLayer r d file
    | none => .ok []
  settingsOf [account, given, environmentLayer env]

/-- The settings of one file and the environment. -/
def loadFile (r : Readers) (d : Disk) (env : Environment) (path : String) : Except Error Settings := do
  let given ← requiredLayer r d path
  settingsOf [given, environmentLayer env]

end TreeShell.Config
