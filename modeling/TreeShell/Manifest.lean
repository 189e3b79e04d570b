import TreeShell.Document
import TreeShell.Text.Quoted
import TreeShell.Tree
/-!
# Manifests

A manifest lists the entries of a tree in listing order. `Manifest.ofDocument?` reads one from a document
and `Manifest.toDirectory` turns it into a directory, unless an entry is defective: its name is not valid
or an earlier entry beside it has that name. The first defective entry is reported, an entry before its
children and these before the entries that follow it.
-/

namespace TreeShell

/-- A named file with its text, or a named directory with its entries. -/
inductive Entry where
  | file (name content : String)
  | directory (name : String) (children : List Entry)
  deriving Inhabited

def Entry.name : Entry → String
  | file name _ => name
  | directory name _ => name

@[ext] structure Manifest where
  children : List Entry
  deriving Inhabited

/-! ## From a manifest to a directory -/

/-- What is wrong with an entry, and in which directory it is. -/
inductive Defect where
  | invalidName (parent : Path) (name : String)
  | duplicateEntry (parent : Path) (name : String)
  deriving DecidableEq

def Defect.message : Defect → String
  | invalidName parent name => "Invalid entry name " ++ Text.quoted name ++ " under " ++ parent.text
  | duplicateEntry parent name => "Duplicate entry " ++ Text.quoted name ++ " under " ++ parent.text

mutual
/-- The node of an entry in the directory at `parent`. -/
def Entry.toNode (parent : Path) : Entry → Except Defect Node
  | .file _ content => .ok (.file content)
  | .directory name children =>
    match Entry.addAll (parent.push name) .empty children with
    | .ok dir => .ok dir.toNode
    | .error e => .error e
termination_by structural entry => entry

/-- Adds entries to the directory at `parent`. -/
def Entry.addAll (parent : Path) (dir : Directory) : List Entry → Except Defect Directory
  | [] => .ok dir
  | entry :: rest =>
    if !Name.isValid entry.name then .error (.invalidName parent entry.name)
    else if dir.contains entry.name then .error (.duplicateEntry parent entry.name)
    else
      match Entry.toNode parent entry with
      | .ok node => Entry.addAll parent (dir.insert entry.name node) rest
      | .error e => .error e
termination_by structural entries => entries
end

/-- The root directory that a manifest describes. -/
def Manifest.toDirectory (m : Manifest) : Except Defect Directory := Entry.addAll .root .empty m.children

/-! ## From a document to a manifest -/

inductive EntryKind where
  | directory
  | file
  deriving DecidableEq

/-- The kind that a document names. Below the first level a kind may also be given by its number. -/
def EntryKind.ofDocument? (nested : Bool) : Document → Option EntryKind
  | .text "dir" => some .directory
  | .text "file" => some .file
  | .natural n => if nested then [EntryKind.directory, EntryKind.file][n]? else none
  | _ => none

open Document

/-- A field that has to be there once. -/
def Document.once? : List Document → Option Document
  | [value] => some value
  | _ => none

/-- A file's text; a missing one is empty. -/
def contentOf? : List Document → Option String
  | [] => some ""
  | [.text content] => some content
  | _ => none

mutual
/-- The entry that a document stands for: a record with a type, a name, and the field that belongs to the
type, each written once, or the list of these values. A file without content is empty, and so is a
directory without children. -/
def Entry.ofDocument? (nested : Bool) : Document → Option Entry
  | .record fields => do
    let kind ← EntryKind.ofDocument? nested (← once? (valuesOf "type" fields))
    let name ← asText? (← once? (valuesOf "name" fields))
    match kind with
    | .file => (contentOf? (valuesOf "content" fields)).map (.file name)
    | .directory =>
      if (valuesOf "children" fields).length ≤ 1 then (Entry.childrenIn? fields).map (.directory name)
      else none
  | .list [kind, .text name] => do
    match ← EntryKind.ofDocument? nested kind with
    | .file => some (.file name "")
    | .directory => some (.directory name [])
  | .list [kind, .text name, value] => do
    match ← EntryKind.ofDocument? nested kind with
    | .file => (contentOf? [value]).map (.file name)
    | .directory => (Entry.listOf? true value).map (.directory name)
  | _ => none
termination_by structural d => d

/-- The entries of the children field. -/
def Entry.childrenIn? : List (String × Document) → Option (List Entry)
  | [] => some []
  | (key, value) :: rest => if key = "children" then Entry.listOf? true value else Entry.childrenIn? rest
termination_by structural fields => fields

/-- The entries of a list. -/
def Entry.listOf? (nested : Bool) : Document → Option (List Entry)
  | .list items => Entry.allOf? nested items
  | _ => none
termination_by structural d => d

def Entry.allOf? (nested : Bool) : List Document → Option (List Entry)
  | [] => some []
  | item :: rest => do
    let entry ← Entry.ofDocument? nested item
    let entries ← Entry.allOf? nested rest
    some (entry :: entries)
termination_by structural items => items
end

/-- The manifest that a document stands for: a record with a list of children, or a list of that list. -/
def Manifest.ofDocument? (d : Document) : Option Manifest :=
  match d.parts? ["children"] with
  | some [children] => (read? [] (Entry.listOf? false) children).map Manifest.mk
  | _ => none

end TreeShell
