import TreeShell.Bureau
import TreeShell.Proofs.Lookup
import TreeShell.Proofs.Resolution
/-!
# Walks through a tree

A look-up walks from directory to directory by the child of each name. `Node.Reaches` says so step by step, for
directories in which a name may occur more than once as well. Walks compose (`Tree.lookup_append_iff`), and they
pass only through directories (`Tree.lookup_above`). What lies at a path decides how the three look-ups end
there, in one of three ways, and each failure names the whole path (`Tree.lookup_walks`).
-/

namespace TreeShell

/-- `inner` is where names lead from a node, down through directories by the child of each name. -/
inductive Node.Reaches : Node → List String → Node → Prop
  | here (node) : Reaches node [] node
  | down {entries name child names inner} (hg : (⟨entries⟩ : Directory).get? name = some child)
    (h : Reaches child names inner) : Reaches (.directory entries) (name :: names) inner

theorem Node.walk?_eq_some_iff_reaches (node : Node) (names : List String) (inner : Node) :
    node.walk? names = some inner ↔ node.Reaches names inner := by
  constructor
  · intro h
    induction names generalizing node with
    | nil =>
      obtain rfl : node = inner := by simpa [walk?] using h
      exact .here node
    | cons name names ih =>
      cases node with
      | file content => simp [walk?] at h
      | directory entries =>
        obtain ⟨child, hg, hw⟩ := Option.bind_eq_some_iff.1 h
        exact .down hg (ih child hw)
  · intro h
    induction h with
    | here node => simp [walk?]
    | down hg _ ih => simpa [walk?, hg] using ih

/-- Only from a directory does a name lead on. -/
theorem Node.exists_directory_of_walk?_cons {node inner : Node} {name : String} {names : List String}
    (h : node.walk? (name :: names) = some inner) : ∃ entries, node = .directory entries := by
  cases node with
  | file content => simp [walk?] at h
  | directory entries => exact ⟨entries, rfl⟩

theorem Path.segments_ofTokens_append (p q : Path) :
    (ofTokens (p.segments ++ q.segments)).segments = p.segments ++ q.segments := by
  have hall : ∀ name ∈ p.segments ++ q.segments, IsSegment name := by
    intro name hm
    rcases List.mem_append.1 hm with hm | hm
    · exact p.isSegment name hm
    · exact q.isSegment name hm
  rw [ofTokens, segments_pushAll hall, segments_root, List.nil_append]

/-- The path that a look-up failed to find. -/
def LookupError.path : LookupError → Path
  | notFound path => path
  | notADirectory path => path
  | notAFile path => path

namespace Tree

variable {t : Tree} {p q : Path}

/-! ## Walks compose -/

theorem lookup_append_iff (t : Tree) (p q : Path) (node : Node) :
    t.lookup (.ofTokens (p.segments ++ q.segments)) = .ok node ↔
      ∃ inner, t.lookup p = .ok inner ∧ inner.Reaches q.segments node := by
  simp only [lookup_eq_ok_iff, Path.segments_ofTokens_append, Node.walk?_append, Option.bind_eq_some_iff,
    Node.walk?_eq_some_iff_reaches]

/-- On the way to a node there are directories only. -/
theorem lookup_above {node : Node} (h : t.lookup p = .ok node) (hq : q.segments <+: p.segments) (hne : q ≠ p) :
    ∃ entries, t.lookup q = .ok (.directory entries) := by
  obtain ⟨rest, hrest⟩ := hq
  cases rest with
  | nil => exact absurd (Path.ext (by simpa using hrest)) hne
  | cons name rest =>
    rw [lookup_eq_ok_iff, ← hrest, Node.walk?_append] at h
    obtain ⟨inner, hinner, hwalk⟩ := Option.bind_eq_some_iff.1 h
    obtain ⟨entries, rfl⟩ := Node.exists_directory_of_walk?_cons hwalk
    exact ⟨entries, (lookup_eq_ok_iff ..).2 hinner⟩

/-- What contains a directory is a directory. -/
theorem isDirectory_above (h : t.isDirectory p = true) (hq : q.segments <+: p.segments) :
    t.isDirectory q = true := by
  by_cases hne : q = p
  · rwa [hne]
  · obtain ⟨entries, hl⟩ := (isDirectory_iff ..).1 h
    exact (isDirectory_iff ..).2 (lookup_above hl hq hne)

/-- A walk that does not come to a directory on its way fails, and names where it was to lead. -/
theorem lookup_of_stopped (hq : q.segments <+: p.segments) (hne : q ≠ p)
    (hstop : ∀ entries, t.lookup q ≠ .ok (.directory entries)) : t.lookup p = .error (.notFound p) := by
  have hnone : ∀ node, t.lookup p ≠ .ok node := by
    intro node h
    obtain ⟨entries, hl⟩ := lookup_above h hq hne
    exact hstop entries hl
  rcases t.lookup_cases p with ⟨entries, h⟩ | ⟨content, h⟩ | h
  · exact absurd h (hnone _)
  · exact absurd h (hnone _)
  · exact h

/-! ## What lies at a path -/

/-- The path is that of a directory, and of no file. -/
def AtDirectory (t : Tree) (p : Path) : Prop := (∃ d, t.directory p = .ok d) ∧ t.file p = .error (.notAFile p)

/-- The path is that of a file, and of no directory. -/
def AtFile (t : Tree) (p : Path) : Prop :=
  (∃ content, t.file p = .ok content) ∧ t.directory p = .error (.notADirectory p)

/-- The path leads nowhere. -/
def Nowhere (t : Tree) (p : Path) : Prop :=
  t.lookup p = .error (.notFound p) ∧ t.directory p = .error (.notFound p) ∧ t.file p = .error (.notFound p)

/-- How the three look-ups end where there is a directory, a file or nothing. -/
theorem typed_lookup_cases (t : Tree) (p : Path) :
    (∃ entries, t.lookup p = .ok (.directory entries) ∧ t.directory p = .ok ⟨entries⟩ ∧
      t.file p = .error (.notAFile p)) ∨
    (∃ content, t.lookup p = .ok (.file content) ∧ t.directory p = .error (.notADirectory p) ∧
      t.file p = .ok content) ∨
    t.Nowhere p := by
  rcases t.lookup_cases p with ⟨entries, h⟩ | ⟨content, h⟩ | h
  · exact .inl ⟨entries, h, by simp [directory, h], by simp [file, h]⟩
  · exact .inr (.inl ⟨content, h, by simp [directory, h], by simp [file, h]⟩)
  · exact .inr (.inr ⟨h, by simp [directory, h], by simp [file, h]⟩)

/-- The look-ups at a path end in one of three ways, and in that one only. -/
theorem ends_in_one_way (t : Tree) (p : Path) :
    (t.AtDirectory p ∧ ¬t.AtFile p ∧ ¬t.Nowhere p) ∨ (¬t.AtDirectory p ∧ t.AtFile p ∧ ¬t.Nowhere p) ∨
      (¬t.AtDirectory p ∧ ¬t.AtFile p ∧ t.Nowhere p) := by
  rcases t.typed_lookup_cases p with ⟨entries, h, hd, hf⟩ | ⟨content, h, hd, hf⟩ | ⟨h, hd, hf⟩
  · exact .inl (by simp [AtDirectory, AtFile, Nowhere, h, hd, hf])
  · exact .inr (.inl (by simp [AtDirectory, AtFile, Nowhere, h, hd, hf]))
  · exact .inr (.inr (by simp [AtDirectory, AtFile, Nowhere, h, hd, hf]))

theorem path_of_error {e : LookupError}
    (he : t.lookup p = .error e ∨ t.directory p = .error e ∨ t.file p = .error e) : e.path = p := by
  rcases t.typed_lookup_cases p with ⟨entries, h, hd, hf⟩ | ⟨content, h, hd, hf⟩ | ⟨h, hd, hf⟩
  · obtain rfl : .notAFile p = e := by simpa [h, hd, hf] using he
    rfl
  · obtain rfl : .notADirectory p = e := by simpa [h, hd, hf] using he
    rfl
  · obtain rfl : .notFound p = e := by simpa [h, hd, hf] using he
    rfl

theorem isDirectory_iff_atDirectory (t : Tree) (p : Path) : t.isDirectory p = true ↔ t.AtDirectory p := by
  rw [isDirectory_iff]
  constructor
  · rintro ⟨entries, h⟩
    exact ⟨⟨⟨entries⟩, (directory_eq_ok_iff ..).2 h⟩, by simp [file, h]⟩
  · rintro ⟨⟨d, hd⟩, -⟩
    exact ⟨d.entries, (directory_eq_ok_iff ..).1 hd⟩

/-! ## Main theorem -/

/-- A look-up walks: behind a path it finds what further names reach from the node there, and everything before a
node that it finds is a directory. At each path lies a directory and no file, or a file and no directory, or
nothing. Each failure names the whole path, wherever on the way the walk stopped. -/
theorem lookup_walks (t : Tree) :
    (∀ (p q : Path) (node : Node), t.lookup (.ofTokens (p.segments ++ q.segments)) = .ok node ↔
      ∃ inner, t.lookup p = .ok inner ∧ inner.Reaches q.segments node) ∧
    (∀ (p q : Path) (node : Node), t.lookup p = .ok node → q.segments <+: p.segments → q ≠ p →
      ∃ entries, t.lookup q = .ok (.directory entries)) ∧
    ∀ p : Path,
      ((t.AtDirectory p ∧ ¬t.AtFile p ∧ ¬t.Nowhere p) ∨ (¬t.AtDirectory p ∧ t.AtFile p ∧ ¬t.Nowhere p) ∨
        (¬t.AtDirectory p ∧ ¬t.AtFile p ∧ t.Nowhere p)) ∧
      (∀ e, t.lookup p = .error e ∨ t.directory p = .error e ∨ t.file p = .error e → e.path = p) ∧
      (∀ q : Path, q.segments <+: p.segments → q ≠ p → (∀ entries, t.lookup q ≠ .ok (.directory entries)) →
        t.lookup p = .error (.notFound p)) ∧
      (t.isDirectory p = true ↔ t.AtDirectory p) :=
  ⟨t.lookup_append_iff, fun _ _ _ => lookup_above, fun p =>
    ⟨t.ends_in_one_way p, fun _ => path_of_error, fun _ => lookup_of_stopped, t.isDirectory_iff_atDirectory p⟩⟩

/-- From the recruit's home two names reach the credentials, and none leads through the brief. -/
theorem lookup_walks_brief :
    let home := Path.ofTokens ["home", "recruit"]
    let inner := home.pushAll ["brief.txt", "inner"]
    Bureau.tree.lookup (.ofTokens (home.segments ++ (Path.ofTokens ["secure", "credentials.txt"]).segments)) =
        .ok (.file Bureau.credentials) ∧
      (home.push "brief.txt").segments <+: inner.segments ∧ home.push "brief.txt" ≠ inner ∧
      Bureau.tree.lookup (home.push "brief.txt") = .ok (.file Bureau.brief) ∧
      Bureau.tree.lookup inner = .error (.notFound inner) := by
  intro home inner
  obtain ⟨hwalk, -, hends⟩ := lookup_walks Bureau.tree
  obtain ⟨-, -, hstop, -⟩ := hends inner
  have hbrief : Bureau.tree.lookup (home.push "brief.txt") = .ok (.file Bureau.brief) := rfl
  have hprefix : (home.push "brief.txt").segments <+: inner.segments := ⟨["inner"], rfl⟩
  have hne : home.push "brief.txt" ≠ inner := by decide +kernel
  have hsecure : (Node.directory [("credentials.txt", .file Bureau.credentials)]).Reaches ["credentials.txt"]
      (.file Bureau.credentials) := .down rfl (.here _)
  exact ⟨(hwalk home (.ofTokens ["secure", "credentials.txt"]) _).2 ⟨.directory Bureau.recruit, rfl, .down rfl hsecure⟩,
    hprefix, hne, hbrief, hstop _ hprefix hne (by simp [hbrief])⟩

end Tree

end TreeShell
