import TreeShell.Bureau
import TreeShell.Proofs.Commands
import TreeShell.Proofs.Lookup
import TreeShell.Proofs.Resolution
import TreeShell.Settings
/-!
# Sessions over whole runs

A line changes nothing but the location, and the location only to home or to a directory that was just
looked up (`evaluate_next`). `Reachable` interpreters are those that lines lead to from an opened session;
in each of them home and the location are directories (`Reachable.placed`), the home because it was one
when the session was opened and never changes. `stands_at_directory` says so for every prefix of a run.
-/

namespace TreeShell.Interpreter

open Text

theorem evaluateAll_cons (it : Interpreter) (line : String) (rest : List String) :
    it.evaluateAll (line :: rest) =
      ((it.evaluate line).evaluation :: ((it.evaluate line).next.evaluateAll rest).1,
        (it.evaluate line).events ++ ((it.evaluate line).next.evaluateAll rest).2.1,
        ((it.evaluate line).next.evaluateAll rest).2.2) := rfl

/-- The interpreter after some lines. -/
def after (it : Interpreter) (lines : List String) : Interpreter := (it.evaluateAll lines).2.2

@[simp] theorem after_nil (it : Interpreter) : it.after [] = it := rfl

@[simp] theorem after_cons (it : Interpreter) (line : String) (lines : List String) :
    it.after (line :: lines) = (it.evaluate line).next.after lines := by
  simp only [after, evaluateAll]

/-- An interpreter that some lines lead to from an opened session. -/
inductive Reachable : Interpreter → Prop
  | opened {tree user host home it} (h : opened tree user host home = .ok it) : Reachable it
  | line {it} (hr : Reachable it) (raw : String) : Reachable (it.evaluate raw).next

theorem Reachable.after {it : Interpreter} (hr : Reachable it) (lines : List String) : Reachable (it.after lines) := by
  induction lines generalizing it with
  | nil => exact hr
  | cons line lines ih =>
    rw [after_cons]
    exact ih (hr.line line)

/-! ## One line -/

/-- A line may move the session, to home or to a directory of the tree that a word of it names. Nothing else
changes. -/
theorem evaluate_next (it : Interpreter) (raw : String) :
    ∃ path, (it.evaluate raw).next = { it with session := it.session.moveTo path } ∧
      (path = it.session.current ∨ path = it.session.home ∨
        ∃ target ∈ tokens raw, ∃ entries, path = it.resolve target ∧
          it.tree.lookup path = .ok (.directory entries)) := by
  rcases it.evaluate_cases raw with ⟨-, he⟩ | ⟨name, args, ht, he, ha⟩ <;> rw [he]
  · exact ⟨it.session.current, rfl, .inl rfl⟩
  · unfold reply
    -- Every other way to end keeps the session.
    generalize it.invoke ⟨name, args⟩ = ending at ha
    cases ha with
    | wentHome => exact ⟨it.session.home, rfl, .inr (.inl rfl)⟩
    | @entered target _ entries _ h =>
      exact ⟨it.resolve target, rfl, .inr (.inr ⟨target, by simp [ht], entries, rfl, h⟩)⟩
    | _ => exact ⟨it.session.current, rfl, .inl rfl⟩

@[simp] theorem evaluate_tree (it : Interpreter) (raw : String) : (it.evaluate raw).next.tree = it.tree := by
  obtain ⟨path, h, -⟩ := it.evaluate_next raw
  rw [h]

@[simp] theorem evaluate_user (it : Interpreter) (raw : String) : (it.evaluate raw).next.user = it.user := by
  obtain ⟨path, h, -⟩ := it.evaluate_next raw
  rw [h]

@[simp] theorem evaluate_host (it : Interpreter) (raw : String) : (it.evaluate raw).next.host = it.host := by
  obtain ⟨path, h, -⟩ := it.evaluate_next raw
  rw [h]

@[simp] theorem evaluate_home (it : Interpreter) (raw : String) :
    (it.evaluate raw).next.session.home = it.session.home := by
  obtain ⟨path, h, -⟩ := it.evaluate_next raw
  rw [h]
  rfl

/-! ## Invariants -/

/-- Home and the location are directories of the tree. -/
structure Placed (it : Interpreter) : Prop where
  home : it.tree.isDirectory it.session.home = true
  current : it.tree.isDirectory it.session.current = true

theorem opened_eq_ok_iff (tree : Tree) (user host : String) (home : Path) (it : Interpreter) :
    opened tree user host home = .ok it ↔ tree.isDirectory home = true ∧ it = ⟨tree, user, host, .opened home⟩ := by
  unfold opened
  split
  · next h => simp [h, @eq_comm _ it]
  · next h => simp [h]

/-- Every tree has a session at its root. -/
theorem reachable_root (tree : Tree) (user host : String) : Reachable ⟨tree, user, host, .opened .root⟩ := by
  have hroot : tree.isDirectory .root = true := (Tree.isDirectory_iff ..).2 ⟨_, tree.lookup_root⟩
  exact .opened ((opened_eq_ok_iff ..).2 ⟨hroot, rfl⟩)

theorem placed_of_opened {tree : Tree} {user host : String} {home : Path} {it : Interpreter}
    (h : opened tree user host home = .ok it) : it.Placed := by
  obtain ⟨hd, rfl⟩ := (opened_eq_ok_iff ..).1 h
  exact ⟨hd, hd⟩

theorem Placed.evaluate {it : Interpreter} (hp : it.Placed) (raw : String) : (it.evaluate raw).next.Placed := by
  obtain ⟨path, hn, hpath⟩ := it.evaluate_next raw
  rw [hn]
  refine ⟨hp.home, ?_⟩
  rcases hpath with rfl | rfl | ⟨-, -, entries, -, hl⟩
  · exact hp.current
  · exact hp.home
  · exact (Tree.isDirectory_iff ..).2 ⟨entries, hl⟩

theorem Reachable.placed {it : Interpreter} (hr : Reachable it) : it.Placed := by
  induction hr with
  | opened h => exact placed_of_opened h
  | line _ raw ih => exact ih.evaluate raw

/-- Under a home without slashes in its names, no line leads to a name with a slash. -/
theorem plain_evaluate {it : Interpreter} (hh : it.session.home.Plain) (hc : it.session.current.Plain) (raw : String) :
    (it.evaluate raw).next.session.current.Plain := by
  obtain ⟨path, hn, hpath⟩ := it.evaluate_next raw
  rw [hn]
  rcases hpath with rfl | rfl | ⟨target, -, -, rfl, -⟩
  · exact hc
  · exact hh
  · exact hc.resolve hh target

/-- What a run keeps: everything but the location, and that the location holds no slash in a name. -/
theorem after_kept (it : Interpreter) (lines : List String) :
    (it.after lines).tree = it.tree ∧ (it.after lines).user = it.user ∧ (it.after lines).host = it.host ∧
      (it.after lines).session.home = it.session.home ∧
      (it.session.home.Plain → it.session.current.Plain → (it.after lines).session.current.Plain) := by
  induction lines generalizing it with
  | nil => exact ⟨rfl, rfl, rfl, rfl, fun _ hc => hc⟩
  | cons line lines ih =>
    obtain ⟨ht, hu, hs, hh, hc⟩ := ih (it.evaluate line).next
    simp only [evaluate_tree, evaluate_user, evaluate_host, evaluate_home] at ht hu hs hh hc
    rw [after_cons]
    exact ⟨ht, hu, hs, hh, fun hhome hcur => hc hhome (plain_evaluate hhome hcur line)⟩

/-! ## Listing never fails -/

theorem Placed.directory {it : Interpreter} (hp : it.Placed) :
    ∃ dir, it.tree.directory it.session.current = .ok dir := by
  obtain ⟨entries, hl⟩ := (Tree.isDirectory_iff ..).1 hp.current
  exact ⟨⟨entries⟩, (Tree.directory_eq_ok_iff ..).2 hl⟩

/-- A session at a directory lists that directory. -/
theorem Placed.lists {it : Interpreter} (hp : it.Placed) {args : List String} {answer : Answer}
    (h : (it.ls args).result = .ok answer) :
    ∃ dir, it.tree.directory it.session.current = .ok dir ∧
      answer = { lines := [join "  " (if args.isEmpty then dir.visibleNames else dir.names)] } := by
  obtain ⟨dir, hd⟩ := hp.directory
  unfold Interpreter.ls at h
  split at h
  · cases h
  · rw [hd] at h
    cases h
    exact ⟨dir, hd, rfl⟩

theorem Placed.misplaced_notMem {it : Interpreter} (hp : it.Placed) (raw : String) (e : LookupError) :
    Event.misplaced e ∉ (it.evaluate raw).events := by
  obtain ⟨dir, hd⟩ := hp.directory
  rcases it.evaluate_cases raw with ⟨-, he⟩ | ⟨name, args, -, he, ha⟩ <;> rw [he]
  · simp
  · unfold reply
    generalize it.invoke ⟨name, args⟩ = ending at ha
    simp only [List.mem_append, not_or]
    refine ⟨?_, by split <;> simp⟩
    cases ha with
    | misplaced _ hm =>
      -- The only end that reports it needs a location that is no directory.
      rw [hd] at hm
      cases hm
    | _ => simp [Ending.events]

/-! ## Main theorem -/

/-- A session opens exactly where home is a directory. Then, after every prefix of every run, it stands at
a directory of the unchanged tree, under unchanged names, at a path of proper names that hold a slash only
if a name of home does; so `ls` always has a directory to list and never reports that it has none. -/
theorem stands_at_directory (tree : Tree) (s : Settings.Session) :
    ((∃ it, opened tree s.user s.host s.home = .ok it) ↔
      ∃ entries, tree.lookup s.home = .ok (.directory entries)) ∧
    ∀ first, opened tree s.user s.host s.home = .ok first → ∀ (lines : List String) (n : Nat),
      let it := first.after (lines.take n)
      (∃ entries, it.tree.lookup it.session.current = .ok (.directory entries)) ∧
      it.tree = tree ∧ it.user = s.user ∧ it.host = s.host ∧ it.session.home = s.home ∧
      (∀ name ∈ it.session.current.segments, name ≠ "" ∧ name ≠ "." ∧ name ≠ "..") ∧
      ((∀ name ∈ s.home.segments, '/' ∉ name.toList) →
        ∀ name ∈ it.session.current.segments, '/' ∉ name.toList) ∧
      (∀ args answer, (it.ls args).result = .ok answer → (it.ls args).session = it.session ∧
        ∃ dir, it.tree.directory it.session.current = .ok dir ∧
          answer = { lines := [join "  " (if args.isEmpty then dir.visibleNames else dir.names)] }) ∧
      ∀ raw e, Event.misplaced e ∉ (it.evaluate raw).events := by
  constructor
  · rw [← Tree.isDirectory_iff]
    constructor
    · rintro ⟨it, h⟩
      exact ((opened_eq_ok_iff ..).1 h).1
    · intro h
      exact ⟨_, (opened_eq_ok_iff ..).2 ⟨h, rfl⟩⟩
  · intro first hf lines n it
    have hp : it.Placed := ((Reachable.opened hf).after _).placed
    obtain ⟨ht, hu, hs, hh, hplain⟩ := first.after_kept (lines.take n)
    obtain ⟨-, rfl⟩ := (opened_eq_ok_iff ..).1 hf
    exact ⟨(Tree.isDirectory_iff ..).1 hp.current, ht, hu, hs, hh, it.session.current.isSegment,
      fun hhome => hplain hhome hhome, fun args _ h => ⟨it.session_ls args, hp.lists h⟩, hp.misplaced_notMem⟩

/-- The recruit's session after two of three lines. -/
theorem stands_at_directory_secure :
    ∃ first, opened Bureau.tree "recruit" "dcib" (.ofTokens ["home", "recruit"]) = .ok first ∧
      ∃ entries, Bureau.tree.lookup
        (first.after (["cd secure", "cat credentials.txt", "cd"].take 2)).session.current =
          .ok (.directory entries) := by
  have hf : opened Bureau.tree "recruit" "dcib" (.ofTokens ["home", "recruit"]) =
      .ok ⟨Bureau.tree, "recruit", "dcib", .opened (.ofTokens ["home", "recruit"])⟩ := rfl
  obtain ⟨hdir, ht, -⟩ :=
    (stands_at_directory Bureau.tree {}).2 _ hf ["cd secure", "cat credentials.txt", "cd"] 2
  exact ⟨_, hf, ht ▸ hdir⟩

end TreeShell.Interpreter
