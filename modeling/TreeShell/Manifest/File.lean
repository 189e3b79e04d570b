import TreeShell.Disk
import TreeShell.Json.Reader
import TreeShell.Manifest
import TreeShell.Toml.Reader
/-!
# Manifest files

A manifest is written in TOML or in JSON; the extension of its file says which. `Tree.load` reads a file
and builds its tree, and `ManifestError` tells what may be wrong on the way.
-/

namespace TreeShell

inductive ManifestError where
  | unreadable (path : String) (cause : Disk.Error)
  | malformedToml
  | malformedJson
  | unsupportedFormat (extension : String)
  | defective (defect : Defect)
  deriving DecidableEq

def ManifestError.message : ManifestError → String
  | unreadable path cause => "Failed to read manifest " ++ path ++ ": " ++ cause.message
  | malformedToml => "Failed to parse TOML manifest"
  | malformedJson => "Failed to parse JSON manifest"
  | unsupportedFormat extension =>
    "Unsupported manifest extension: " ++ extension ++ " (expected .toml or .json)"
  | defective defect => defect.message

inductive ManifestFormat where
  | toml
  | json
  deriving DecidableEq

def ManifestFormat.ofExtension? : String → Option ManifestFormat
  | "toml" => some .toml
  | "json" => some .json
  | _ => none

/-- How deep lists and records are nested at most in a JSON text. -/
def Json.nestingLimit : Nat := 127

/-- Whether all entries of a manifest can be read. They stand in a list inside another list or record. -/
def Document.entriesReadable (d : Document) : Bool :=
  match d.parts? ["children"] with
  | some [some (.list items)] => items.all fun item => item.isReadable (Json.nestingLimit - 2)
  | _ => true

namespace Manifest

def ofToml (text : String) : Except ManifestError Manifest :=
  match (Toml.read? text).bind Manifest.ofDocument? with
  | some manifest => .ok manifest
  | none => .error .malformedToml

/-- Only what is a part of the manifest has to be readable: fields beside the children are skipped over. -/
def ofJson (text : String) : Except ManifestError Manifest :=
  match ((Json.read? text).filter Document.entriesReadable).bind Manifest.ofDocument? with
  | some manifest => .ok manifest
  | none => .error .malformedJson

def ofText : ManifestFormat → String → Except ManifestError Manifest
  | .toml, text => ofToml text
  | .json, text => ofJson text

/-- The manifest in a file. The file is read before its extension is looked at. -/
def load (d : Disk) (path : String) : Except ManifestError Manifest :=
  match d.readText path with
  | .error e => .error (.unreadable path e)
  | .ok text =>
    let extension := (FilePath.extension? path).getD ""
    match ManifestFormat.ofExtension? extension with
    | some format => ofText format text
    | none => .error (.unsupportedFormat extension)

/-- The tree that a manifest describes. -/
def toTree (m : Manifest) : Except ManifestError Tree :=
  match m.toDirectory with
  | .ok dir => .ok ⟨dir⟩
  | .error defect => .error (.defective defect)

end Manifest

/-- The tree of a manifest file. -/
def Tree.load (d : Disk) (path : String) : Except ManifestError Tree :=
  match Manifest.load d path with
  | .ok manifest => manifest.toTree
  | .error e => .error e

end TreeShell
