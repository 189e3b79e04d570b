import TreeShell.Manifest
import TreeShell.Proofs.Lookup
/-!
# Which manifests make a tree

`Entry.nodes` reads entries as named nodes and checks nothing. The builder gives exactly that reading
where the names are valid and differ among siblings, at every depth, and it gives nothing elsewhere
(`Manifest.toDirectory_eq_ok_iff`). So every tree that comes from a manifest is well named
(`Manifest.wellNamed_toNode`).
-/

namespace TreeShell

/-! ## Reading entries as nodes -/

mutual
/-- The node that an entry describes. -/
def Entry.node : Entry → Node
  | .file _ content => .file content
  | .directory _ children => .directory (Entry.nodes children)
termination_by structural entry => entry

/-- The named nodes that entries describe, in their order. -/
def Entry.nodes : List Entry → List (String × Node)
  | [] => []
  | entry :: rest => (entry.name, entry.node) :: Entry.nodes rest
termination_by structural entries => entries
end

mutual
/-- A valid name, and children that are well named and differ in their names. -/
def Entry.WellNamed : Entry → Prop
  | .file name _ => Name.isValid name = true
  | .directory name children =>
    Name.isValid name = true ∧ (children.map Entry.name).Nodup ∧ Entry.AllWellNamed children
termination_by structural entry => entry

def Entry.AllWellNamed : List Entry → Prop
  | [] => True
  | entry :: rest => entry.WellNamed ∧ Entry.AllWellNamed rest
termination_by structural entries => entries
end

/-- Names are valid, and differ among siblings, at every depth. -/
def Manifest.WellNamed (m : Manifest) : Prop :=
  (m.children.map Entry.name).Nodup ∧ Entry.AllWellNamed m.children

theorem Entry.names_nodes (entries : List Entry) : (Entry.nodes entries).map Prod.fst = entries.map Entry.name := by
  induction entries with
  | nil => rfl
  | cons entry rest ih => simp [Entry.nodes, ih]

theorem Entry.WellNamed.isValid {entry : Entry} (h : entry.WellNamed) : Name.isValid entry.name = true := by
  cases entry with
  | file name content => exact h
  | directory name children => exact h.1

/-! ## What the builder accepts -/

mutual
theorem Entry.toNode_eq_ok_iff : ∀ (entry : Entry) (parent : Path) (node : Node), Name.isValid entry.name = true →
    (Entry.toNode parent entry = .ok node ↔ entry.WellNamed ∧ node = entry.node)
  | .file name content, parent, node, hv => by
    simp only [Entry.name] at hv
    simp [Entry.toNode, Entry.WellNamed, Entry.node, hv, @eq_comm _ node]
  | .directory name children, parent, node, hv => by
    have hadd := Entry.addAll_eq_ok_iff children (parent.push name) .empty
    simp only [Entry.name] at hv
    simp only [Entry.toNode, Entry.WellNamed, Entry.node, hv, true_and]
    cases ha : Entry.addAll (parent.push name) .empty children with
    | error e =>
      have hno : ¬((children.map Entry.name).Nodup ∧ Entry.AllWellNamed children) := by
        rintro ⟨hd, hw⟩
        have := (hadd ⟨Entry.nodes children⟩ .nil).2 ⟨hw, hd, rfl⟩
        rw [ha] at this
        cases this
      simp [hno]
    | ok d =>
      obtain ⟨hw, hd, he⟩ := (hadd d .nil).1 ha
      have hd' : (children.map Entry.name).Nodup := hd
      have he' : d.entries = Entry.nodes children := he
      simp [hw, hd', Directory.toNode, he', @eq_comm _ node]

/-- Entries are added to a directory exactly where each is well named and no name comes twice or is there
already; they are then put behind what is there. -/
theorem Entry.addAll_eq_ok_iff : ∀ (entries : List Entry) (parent : Path) (dir d : Directory), dir.names.Nodup →
    (Entry.addAll parent dir entries = .ok d ↔
      Entry.AllWellNamed entries ∧ (dir.names ++ entries.map Entry.name).Nodup ∧
        d.entries = dir.entries ++ Entry.nodes entries)
  | [], parent, dir, d, hd => by
    simp [Entry.addAll, Entry.AllWellNamed, Entry.nodes, hd, Directory.ext_iff, @eq_comm _ d.entries]
  | entry :: rest, parent, dir, d, hd => by
    by_cases hv : Name.isValid entry.name = true
    · by_cases hc : dir.contains entry.name = true
      · -- The name is there already.
        have hm := (dir.contains_iff _).1 hc
        have hdup : ¬(dir.names ++ entry.name :: rest.map Entry.name).Nodup := fun h =>
          (List.nodup_append.1 h).2.2 _ hm _ (by simp) rfl
        simp [Entry.addAll, hv, hc, hdup]
      · have hm : entry.name ∉ dir.names := fun h => hc ((dir.contains_iff _).2 h)
        have hnode := Entry.toNode_eq_ok_iff entry parent
        cases hn : Entry.toNode parent entry with
        | error e =>
          have hno : ¬entry.WellNamed := fun h => by
            have := (hnode entry.node hv).2 ⟨h, rfl⟩
            rw [hn] at this
            cases this
          simp [Entry.addAll, hv, hc, hn, Entry.AllWellNamed, hno]
        | ok node =>
          -- The entry is new, so it goes last, and the rest is added behind it.
          obtain ⟨hw, rfl⟩ := (hnode node hv).1 hn
          have hins := Directory.entries_insert_of_notMem hm entry.node
          have hnames : (dir.insert entry.name entry.node).names = dir.names ++ [entry.name] := by
            rw [Directory.names_insert, if_neg hm]
          have hrest := Entry.addAll_eq_ok_iff rest parent (dir.insert entry.name entry.node) d
            (Directory.nodup_names_insert hd _ _)
          rw [hnames, hins] at hrest
          simp only [Entry.addAll, hv, hc, hn, Entry.AllWellNamed, hw, Entry.nodes, Bool.not_true, if_false,
            Bool.false_eq_true, true_and]
          simpa using hrest
    · have hno : ¬entry.WellNamed := fun h => hv h.isValid
      simp [Entry.addAll, hv, Entry.AllWellNamed, hno]
end

/-- A manifest makes a directory exactly where it is well named, and then its own entries. -/
theorem Manifest.toDirectory_eq_ok_iff (m : Manifest) (d : Directory) :
    m.toDirectory = .ok d ↔ m.WellNamed ∧ d.entries = Entry.nodes m.children := by
  have h := Entry.addAll_eq_ok_iff m.children .root .empty d .nil
  simp only [Directory.names, Directory.empty, List.map_nil, List.nil_append] at h
  rw [Manifest.toDirectory, Directory.empty, h, Manifest.WellNamed]
  constructor
  · rintro ⟨hw, hd, he⟩
    exact ⟨⟨hd, hw⟩, he⟩
  · rintro ⟨⟨hd, hw⟩, he⟩
    exact ⟨hw, hd, he⟩

/-! ## Trees from manifests -/

mutual
theorem Entry.wellNamed_node : ∀ entry : Entry, entry.WellNamed → entry.node.WellNamed
  | .file _ content, _ => .file content
  | .directory _ children, ⟨_, hd, hw⟩ => by
    have hmem := Entry.wellNamed_of_mem_nodes children hw
    exact .directory (by rwa [Entry.names_nodes]) (fun n c h => (hmem n c h).1) fun n c h => (hmem n c h).2

theorem Entry.wellNamed_of_mem_nodes : ∀ entries : List Entry, Entry.AllWellNamed entries →
    ∀ name child, (name, child) ∈ Entry.nodes entries → Name.isValid name = true ∧ child.WellNamed
  | [], _, _, _, h => by simp [Entry.nodes] at h
  | entry :: rest, ⟨hw, hrest⟩, name, child, h => by
    rcases List.mem_cons.1 h with he | h
    · obtain ⟨rfl, rfl⟩ := Prod.mk.injEq .. ▸ he
      exact ⟨hw.isValid, Entry.wellNamed_node entry hw⟩
    · exact Entry.wellNamed_of_mem_nodes rest hrest name child h
end

theorem Manifest.wellNamed_toNode {m : Manifest} {d : Directory} (h : m.toDirectory = .ok d) : d.toNode.WellNamed := by
  obtain ⟨⟨hd, hw⟩, he⟩ := (m.toDirectory_eq_ok_iff d).1 h
  have hmem := Entry.wellNamed_of_mem_nodes m.children hw
  rw [Directory.toNode, he]
  exact .directory (by rwa [Entry.names_nodes]) (fun n c h => (hmem n c h).1) fun n c h => (hmem n c h).2

end TreeShell
