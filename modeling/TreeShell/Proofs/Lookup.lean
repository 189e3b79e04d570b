import TreeShell.Tree
/-!
# Look-ups and chains of entries

`Node.Under node chain inner` follows entries from directory to directory without asking which of several
entries of one name a look-up would find. Where names are distinct the walk of a look-up finds exactly the
nodes that lie under a chain (`Node.walk?_eq_some_iff`).
-/

namespace TreeShell

/-- `inner` lies under `node` at the end of a chain of entries with these names. -/
inductive Node.Under : Node → List String → Node → Prop
  | here (node) : Under node [] node
  | entry {entries name child chain inner} (hm : (name, child) ∈ entries) (h : Under child chain inner) :
    Under (.directory entries) (name :: chain) inner

/-- Every directory names its entries validly and each differently, at every depth. -/
inductive Node.WellNamed : Node → Prop
  | file (content) : WellNamed (.file content)
  | directory {entries : List (String × Node)} (hd : (entries.map Prod.fst).Nodup)
    (hv : ∀ name child, (name, child) ∈ entries → Name.isValid name = true)
    (hc : ∀ name child, (name, child) ∈ entries → WellNamed child) : WellNamed (.directory entries)

/-! ## One directory -/

theorem Directory.mem_of_get? {d : Directory} {name : String} {child : Node} (h : d.get? name = some child) :
    (name, child) ∈ d.entries := by
  obtain ⟨⟨n, x⟩, hf, rfl⟩ := Option.map_eq_some_iff.1 h
  have hn : n = name := by simpa using List.find?_some hf
  exact hn ▸ List.mem_of_find?_eq_some hf

/-- Where names are distinct, a name finds its entry. -/
theorem Directory.get?_eq_some_iff {d : Directory} (hd : d.names.Nodup) (name : String) (child : Node) :
    d.get? name = some child ↔ (name, child) ∈ d.entries := by
  refine ⟨mem_of_get?, ?_⟩
  intro hm
  obtain ⟨entries⟩ := d
  simp only [names] at hd hm
  induction entries with
  | nil => cases hm
  | cons e rest ih =>
    obtain ⟨hne, hrest⟩ := List.nodup_cons.1 (by simpa using hd : (e.1 :: rest.map Prod.fst).Nodup)
    rcases List.mem_cons.1 hm with rfl | hm
    · simp [get?]
    · -- The entry lies further back, so the first one bears another name.
      have hn : e.1 ≠ name := fun he => hne (he ▸ List.mem_map_of_mem (f := Prod.fst) hm)
      simpa [get?, List.find?_cons, hn] using ih hrest hm

theorem Directory.contains_iff (d : Directory) (name : String) : d.contains name = true ↔ name ∈ d.names := by
  simp [contains, get?, names]

/-- A new name goes last. -/
theorem Directory.entries_insert_of_notMem {d : Directory} {name : String} (h : name ∉ d.names) (node : Node) :
    (d.insert name node).entries = d.entries ++ [(name, node)] := by
  obtain ⟨entries⟩ := d
  simp only [names, entries_insert] at h ⊢
  induction entries with
  | nil => rfl
  | cons e rest ih =>
    obtain ⟨hne, hrest⟩ : name ≠ e.1 ∧ name ∉ rest.map Prod.fst := by simpa using h
    simp [insertEntry, Ne.symm hne, ih hrest]

/-! ## Walks -/

theorem Node.under_of_walk? {node inner : Node} {chain : List String} (h : node.walk? chain = some inner) :
    node.Under chain inner := by
  induction chain generalizing node with
  | nil =>
    have : node = inner := by simpa [walk?] using h
    exact this ▸ .here node
  | cons name rest ih =>
    cases node with
    | file content => simp [walk?] at h
    | directory entries =>
      obtain ⟨child, hg, hw⟩ := Option.bind_eq_some_iff.1 h
      exact .entry (Directory.mem_of_get? hg) (ih hw)

/-- Under valid and distinct names, a walk finds exactly what lies under the chain. -/
theorem Node.walk?_eq_some_iff {node : Node} (hn : node.WellNamed) (chain : List String) (inner : Node) :
    node.walk? chain = some inner ↔ node.Under chain inner := by
  refine ⟨under_of_walk?, ?_⟩
  intro h
  induction h with
  | here node => simp [walk?]
  | @entry entries name child chain inner hm _ ih =>
    cases hn with
    | directory hd _ hc =>
      have hg := (Directory.get?_eq_some_iff (d := ⟨entries⟩) hd name child).2 hm
      simpa [walk?, hg] using ih (hc name child hm)

/-- What lies in a well-named tree is well named. -/
theorem Node.Under.wellNamed {node inner : Node} {chain : List String} (h : node.Under chain inner)
    (hn : node.WellNamed) : inner.WellNamed := by
  induction h with
  | here => exact hn
  | @entry entries name child chain inner hm _ ih =>
    cases hn with
    | directory _ _ hc => exact ih (hc name child hm)

/-- Every name of a chain is valid. -/
theorem Node.Under.isValid {node inner : Node} {chain : List String} (h : node.Under chain inner)
    (hn : node.WellNamed) : ∀ name ∈ chain, Name.isValid name = true := by
  induction h with
  | here => simp
  | @entry entries name child chain inner hm _ ih =>
    cases hn with
    | directory _ hv hc =>
      intro n hmem
      rcases List.mem_cons.1 hmem with rfl | hmem
      · exact hv n child hm
      · exact ih (hc name child hm) n hmem

/-! ## Look-ups -/

namespace Tree

theorem lookup_eq_ok_iff (t : Tree) (p : Path) (node : Node) :
    t.lookup p = .ok node ↔ t.root.walk? p.segments = some node := by
  unfold lookup
  cases t.root.walk? p.segments <;> simp

/-- A look-up ends at a directory, at a file or nowhere. -/
theorem lookup_cases (t : Tree) (p : Path) :
    (∃ entries, t.lookup p = .ok (.directory entries)) ∨ (∃ content, t.lookup p = .ok (.file content)) ∨
      t.lookup p = .error (.notFound p) := by
  unfold lookup
  cases t.root.walk? p.segments with
  | none => exact .inr (.inr rfl)
  | some node =>
    cases node with
    | file content => exact .inr (.inl ⟨content, rfl⟩)
    | directory entries => exact .inl ⟨entries, rfl⟩

theorem directory_eq_ok_iff (t : Tree) (p : Path) (d : Directory) :
    t.directory p = .ok d ↔ t.lookup p = .ok (.directory d.entries) := by
  obtain ⟨entries⟩ := d
  unfold directory
  split <;> simp_all

theorem isDirectory_iff (t : Tree) (p : Path) :
    t.isDirectory p = true ↔ ∃ entries, t.lookup p = .ok (.directory entries) := by
  unfold isDirectory directory
  split <;> simp_all [Except.isOk, Except.toBool]

theorem lookup_root (t : Tree) : t.lookup .root = .ok (.directory t.rootDirectory.entries) :=
  (lookup_eq_ok_iff ..).2 (by simp [Node.walk?, root, Directory.toNode])

/-- Below a directory, a look-up asks that directory for the name. -/
theorem lookup_push {t : Tree} {p : Path} {entries : List (String × Node)} (h : t.lookup p = .ok (.directory entries))
    {name : String} (hn : IsSegment name) (child : Node) :
    t.lookup (p.push name) = .ok child ↔ (⟨entries⟩ : Directory).get? name = some child := by
  rw [lookup_eq_ok_iff] at h ⊢
  rw [Path.segments_push_of_isSegment p hn, Node.walk?_append, h]
  simp only [Option.bind_some, Node.walk?]
  cases (⟨entries⟩ : Directory).get? name <;> simp

end Tree

end TreeShell
