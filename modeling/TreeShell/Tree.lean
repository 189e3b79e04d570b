import TreeShell.Node
/-!
# The tree and its look-ups

A tree is its root directory. `Tree.lookup` follows a path name by name; it fails when a name is missing
or when the walk would have to go through a file. A failure names the whole path that was asked for.
-/

namespace TreeShell

/-- Why a look-up fails. -/
inductive LookupError where
  | notFound (path : Path)
  | notADirectory (path : Path)
  | notAFile (path : Path)
  deriving DecidableEq

def LookupError.message : LookupError → String
  | notFound path => "Not found: " ++ path.text
  | notADirectory path => "Not a directory: " ++ path.text
  | notAFile path => "Not a file: " ++ path.text

/-- The node that a list of names leads to. -/
def Node.walk? : Node → List String → Option Node
  | node, [] => some node
  | .file _, _ :: _ => none
  | .directory entries, name :: rest => ((⟨entries⟩ : Directory).get? name).bind fun child => child.walk? rest

/-- A read-only tree of files. -/
@[ext] structure Tree where
  rootDirectory : Directory
  deriving DecidableEq, Inhabited

namespace Tree

def root (t : Tree) : Node := t.rootDirectory.toNode

/-- The node at a path. -/
def lookup (t : Tree) (path : Path) : Except LookupError Node :=
  match t.root.walk? path.segments with
  | some node => .ok node
  | none => .error (.notFound path)

/-- The directory at a path. -/
def directory (t : Tree) (path : Path) : Except LookupError Directory :=
  match t.lookup path with
  | .ok (.directory entries) => .ok ⟨entries⟩
  | .ok (.file _) => .error (.notADirectory path)
  | .error e => .error e

/-- The text of the file at a path. -/
def file (t : Tree) (path : Path) : Except LookupError String :=
  match t.lookup path with
  | .ok (.file content) => .ok content
  | .ok (.directory _) => .error (.notAFile path)
  | .error e => .error e

def isDirectory (t : Tree) (path : Path) : Bool := (t.directory path).isOk

end Tree

/-- Walking along two lists of names is walking along the first and then along the second. -/
theorem Node.walk?_append (node : Node) (p q : List String) :
    node.walk? (p ++ q) = (node.walk? p).bind fun inner => inner.walk? q := by
  induction p generalizing node with
  | nil => simp [walk?]
  | cons name rest ih =>
    cases node with
    | file content => simp [walk?]
    | directory entries =>
      simp only [List.cons_append, walk?]
      cases (⟨entries⟩ : Directory).get? name with
      | none => rfl
      | some child => simpa using ih child

end TreeShell
