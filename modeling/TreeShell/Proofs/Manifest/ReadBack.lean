import TreeShell.Proofs.Manifest
/-!
# Manifests read back

`Directory.manifest` lists a directory as a manifest again, entry by entry. A manifest that makes a directory
is what that directory lists, and it makes one exactly where every list of children in it, at any depth, has
valid names that differ (`Manifest.accepted_iff_and_read_back`).
-/

namespace TreeShell

/-! ## Reading nodes as entries -/

mutual
/-- The entry that a node is under a name. -/
def Node.entry (name : String) : Node → Entry
  | .file content => .file name content
  | .directory entries => .directory name (Node.listing entries)
termination_by structural node => node

/-- The entries that named nodes are, in their order. -/
def Node.listing : List (String × Node) → List Entry
  | [] => []
  | (name, node) :: rest => node.entry name :: Node.listing rest
termination_by structural entries => entries
end

/-- The manifest that lists a directory and all below it. -/
def Directory.manifest (d : Directory) : Manifest := ⟨Node.listing d.entries⟩

mutual
/-- An entry made a node is read back as it was. -/
theorem Entry.entry_node : ∀ entry : Entry, entry.node.entry entry.name = entry
  | .file _ _ => rfl
  | .directory name children => by
    have hc : Node.listing (Entry.nodes children) = children := Entry.listing_nodes children
    simp [Entry.node, Entry.name, Node.entry, hc]

theorem Entry.listing_nodes : ∀ entries : List Entry, Node.listing (Entry.nodes entries) = entries
  | [] => rfl
  | entry :: rest => by
    have hentry := Entry.entry_node entry
    have hrest := Entry.listing_nodes rest
    simp [Entry.nodes, Node.listing, hentry, hrest]
end

/-! ## Every list of children -/

/-- `inner` is the list itself, or the children of a directory at some depth in it. -/
inductive Entry.Within : List Entry → List Entry → Prop
  | here (entries) : Within entries entries
  | deeper {entries name children inner} (hm : Entry.directory name children ∈ entries)
    (h : Within children inner) : Within entries inner

/-- Valid names, each different. -/
def Entry.ProperSiblings (siblings : List Entry) : Prop :=
  (∀ entry ∈ siblings, Name.isValid entry.name = true) ∧ (siblings.map Entry.name).Nodup

theorem Entry.allWellNamed_iff (entries : List Entry) :
    Entry.AllWellNamed entries ↔ ∀ entry ∈ entries, entry.WellNamed := by
  induction entries with
  | nil => simp [AllWellNamed]
  | cons entry rest ih => simp [AllWellNamed, ih]

theorem Entry.properSiblings_of_within {entries inner : List Entry} (h : Entry.Within entries inner)
    (hd : (entries.map Entry.name).Nodup) (hw : Entry.AllWellNamed entries) : Entry.ProperSiblings inner := by
  induction h with
  | here entries =>
    rw [allWellNamed_iff] at hw
    exact ⟨fun entry hm => (hw entry hm).isValid, hd⟩
  | deeper hm _ ih =>
    obtain ⟨-, hd', hw'⟩ := (allWellNamed_iff _).1 hw _ hm
    exact ih hd' hw'

mutual
theorem Entry.wellNamed_of_within : ∀ entry : Entry, Name.isValid entry.name = true →
    (∀ name children, entry = .directory name children →
      ∀ inner, Entry.Within children inner → Entry.ProperSiblings inner) → entry.WellNamed
  | .file _ _, hv, _ => hv
  | .directory name children, hv, h => by
    have hin := h name children rfl
    obtain ⟨hvalid, hd⟩ := hin children (.here children)
    exact ⟨hv, hd, Entry.allWellNamed_of_within children hvalid
      fun _ _ hm inner hi => hin inner (.deeper hm hi)⟩

/-- Proper siblings at every depth make the entries well named. -/
theorem Entry.allWellNamed_of_within : ∀ entries : List Entry,
    (∀ entry ∈ entries, Name.isValid entry.name = true) →
    (∀ name children, Entry.directory name children ∈ entries →
      ∀ inner, Entry.Within children inner → Entry.ProperSiblings inner) → Entry.AllWellNamed entries
  | [], _, _ => trivial
  | entry :: rest, hv, h => by
    refine ⟨Entry.wellNamed_of_within entry (hv entry (by simp)) ?_, Entry.allWellNamed_of_within rest ?_ ?_⟩
    · intro name children he
      exact h name children (by simp [he])
    · intro e hm
      exact hv e (by simp [hm])
    · intro name children hm
      exact h name children (by simp [hm])
end

theorem Manifest.wellNamed_iff_within (m : Manifest) :
    m.WellNamed ↔ ∀ siblings, Entry.Within m.children siblings → Entry.ProperSiblings siblings := by
  constructor
  · rintro ⟨hd, hw⟩ siblings h
    exact Entry.properSiblings_of_within h hd hw
  · intro h
    obtain ⟨hv, hd⟩ := h m.children (.here m.children)
    exact ⟨hd, Entry.allWellNamed_of_within m.children hv fun _ _ hm inner hi => h inner (.deeper hm hi)⟩

/-! ## Directories that a manifest makes -/

/-- A directory anywhere in a well-named tree finds each of its entries by name, and nothing else. -/
theorem Node.Under.names_of_wellNamed {node : Node} {chain : List String} {entries : List (String × Node)}
    (h : node.Under chain (.directory entries)) (hn : node.WellNamed) :
    let d : Directory := ⟨entries⟩
    (∀ name ∈ d.names, Name.isValid name = true) ∧ d.names.Nodup ∧
      ∀ name child, d.get? name = some child ↔ (name, child) ∈ entries := by
  intro d
  cases h.wellNamed hn with
  | directory hd hv _ =>
    refine ⟨?_, hd, Directory.get?_eq_some_iff (d := d) hd⟩
    intro name hm
    obtain ⟨⟨n, child⟩, he, rfl⟩ := List.mem_map.1 hm
    exact hv n child he

theorem Manifest.accepted_iff_wellNamed (m : Manifest) : (∃ dir, m.toDirectory = .ok dir) ↔ m.WellNamed := by
  constructor
  · rintro ⟨dir, h⟩
    exact ((m.toDirectory_eq_ok_iff dir).1 h).1
  · intro h
    exact ⟨⟨Entry.nodes m.children⟩, (m.toDirectory_eq_ok_iff _).2 ⟨h, rfl⟩⟩

/-- A manifest makes a directory exactly where, at every depth, the names in a list of children are valid and
differ. The directory then reads back as the manifest, and at every depth it holds valid names that differ and
finds each entry by its name. -/
theorem Manifest.accepted_iff_and_read_back (m : Manifest) :
    ((∃ dir, m.toDirectory = .ok dir) ↔
      ∀ siblings, Entry.Within m.children siblings →
        (∀ entry ∈ siblings, Name.isValid entry.name = true) ∧ (siblings.map Entry.name).Nodup) ∧
    ∀ dir, m.toDirectory = .ok dir →
      dir.manifest = m ∧
      ∀ chain entries, dir.toNode.Under chain (.directory entries) →
        let d : Directory := ⟨entries⟩
        (∀ name ∈ d.names, Name.isValid name = true) ∧ d.names.Nodup ∧
          ∀ name child, d.get? name = some child ↔ (name, child) ∈ entries := by
  refine ⟨m.accepted_iff_wellNamed.trans m.wellNamed_iff_within, ?_⟩
  intro dir h
  have he := ((m.toDirectory_eq_ok_iff dir).1 h).2
  refine ⟨?_, fun chain entries hu => hu.names_of_wellNamed (Manifest.wellNamed_toNode h)⟩
  rw [Directory.manifest, he, Entry.listing_nodes]

/-- One name may come again at another depth, and the order of the entries is not that of their names. -/
theorem Manifest.accepted_iff_and_read_back_notes :
    let m : Manifest := ⟨[.directory "notes" [.file "notes" "b\n", .directory "a" []], .file "a" ""]⟩
    ∃ dir, m.toDirectory = .ok dir ∧ dir.manifest = m := by
  intro m
  have hm : m.toDirectory =
      .ok ⟨[("notes", .directory [("notes", .file "b\n"), ("a", .directory [])]), ("a", .file "")]⟩ := rfl
  exact ⟨_, hm, (m.accepted_iff_and_read_back.2 _ hm).1⟩

end TreeShell
