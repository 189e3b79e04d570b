import TreeShell.Name
/-!
# Files and directories

A directory lists its children in the order in which their names first came in. `Directory.insert` puts a
new name last and a known one where it already is, so that names stay unique
(`nodup_names_insert`), and `Directory.get?` finds what was inserted last under a name
(`get?_insert`).
-/

namespace TreeShell

/-- A file with its text, or a directory with its named children in listing order. -/
inductive Node where
  | file (content : String)
  | directory (entries : List (String × Node))
  deriving Inhabited

/-- The children of a directory in listing order. -/
@[ext] structure Directory where
  entries : List (String × Node)

namespace Node

/-! ## Equality -/

mutual
def decEq : (a b : Node) → Decidable (a = b)
  | .file a, .file b => decidable_of_iff (a = b) (by simp)
  | .file _, .directory _ => isFalse (by simp)
  | .directory _, .file _ => isFalse (by simp)
  | .directory a, .directory b =>
    let _ := decEqEntries a b
    decidable_of_iff (a = b) (by simp)

def decEqEntries : (a b : List (String × Node)) → Decidable (a = b)
  | [], [] => isTrue rfl
  | [], _ :: _ => isFalse (by simp)
  | _ :: _, [] => isFalse (by simp)
  | (n, x) :: r, (m, y) :: s =>
    let _ := decEq x y
    let _ := decEqEntries r s
    decidable_of_iff (n = m ∧ x = y ∧ r = s) (by simp [and_assoc])
end

instance : DecidableEq Node := decEq

def isDirectory : Node → Bool
  | file _ => false
  | directory _ => true

/-- The children of a directory. -/
def asDirectory? : Node → Option Directory
  | file _ => none
  | directory entries => some ⟨entries⟩

/-- The text of a file. -/
def asFile? : Node → Option String
  | file content => some content
  | directory _ => none

end Node

namespace Directory

instance : DecidableEq Directory := fun a b => decidable_of_iff (a.entries = b.entries) Directory.ext_iff.symm

def empty : Directory := ⟨[]⟩

instance : Inhabited Directory := ⟨empty⟩

/-- The directory as a node of a tree. -/
def toNode (d : Directory) : Node := .directory d.entries

/-- The entries with a name given a node: where the name is, or at the end if it is new. -/
def insertEntry (name : String) (node : Node) : List (String × Node) → List (String × Node)
  | [] => [(name, node)]
  | (n, x) :: rest => if n = name then (n, node) :: rest else (n, x) :: insertEntry name node rest

/-- Gives a name a node. A known name keeps its place in the listing. -/
def insert (d : Directory) (name : String) (node : Node) : Directory := ⟨insertEntry name node d.entries⟩

/-- Gives a name a file. -/
def withFile (d : Directory) (name content : String) : Directory := d.insert name (.file content)

/-- Gives a name a directory. -/
def withDirectory (d : Directory) (name : String) (inner : Directory) : Directory := d.insert name inner.toNode

/-- The child of a name. -/
def get? (d : Directory) (name : String) : Option Node :=
  (d.entries.find? fun entry => entry.1 = name).map Prod.snd

def contains (d : Directory) (name : String) : Bool := (d.get? name).isSome

/-- All names in listing order. -/
def names (d : Directory) : List String := d.entries.map Prod.fst

/-- The names in listing order without the hidden ones. -/
def visibleNames (d : Directory) : List String := d.names.filter fun name => !Name.isHidden name

def size (d : Directory) : Nat := d.entries.length

def isEmpty (d : Directory) : Bool := d.entries.isEmpty

/-! ## What an insertion changes -/

@[simp] theorem entries_insert (d : Directory) (name : String) (node : Node) :
    (d.insert name node).entries = insertEntry name node d.entries := rfl

/-- An insertion keeps the names in their places and adds a new one at the end. -/
theorem names_insert (d : Directory) (name : String) (node : Node) :
    (d.insert name node).names = if name ∈ d.names then d.names else d.names ++ [name] := by
  obtain ⟨entries⟩ := d
  simp only [names, entries_insert]
  induction entries with
  | nil => simp [insertEntry]
  | cons e rest ih =>
    obtain ⟨n, x⟩ := e
    simp only [insertEntry]
    split
    · next h => simp [h]
    · next h =>
      have hn : ¬name = n := fun e => h e.symm
      simp only [List.map_cons, ih, List.mem_cons, hn, false_or]
      by_cases hm : name ∈ rest.map Prod.fst <;> simp [hm]

theorem nodup_names_insert {d : Directory} (h : d.names.Nodup) (name : String) (node : Node) :
    (d.insert name node).names.Nodup := by
  rw [names_insert]
  split
  · exact h
  · next hn =>
    refine List.nodup_append.2 ⟨h, by simp, ?_⟩
    intro a ha b hb
    rintro rfl
    exact hn (List.mem_singleton.1 hb ▸ ha)

/-- A look-up after an insertion finds the new node under its name and else what it found before. -/
theorem get?_insert (d : Directory) (name other : String) (node : Node) :
    (d.insert name node).get? other = if other = name then some node else d.get? other := by
  obtain ⟨entries⟩ := d
  simp only [get?, entries_insert]
  induction entries with
  | nil => simp only [insertEntry, List.find?_cons, List.find?_nil, @eq_comm _ other]; split <;> simp_all
  | cons e rest ih =>
    obtain ⟨n, x⟩ := e
    simp only [insertEntry]
    by_cases hn : n = name
    · subst hn
      by_cases ho : other = n
      · simp [ho]
      · simp [ho, Ne.symm ho]
    · by_cases ho : n = other
      · subst ho; simp [hn]
      · simp only [hn, if_false]
        rw [List.find?_cons_of_neg (by simpa using ho), ih, List.find?_cons_of_neg (by simpa using ho)]

end Directory

end TreeShell
