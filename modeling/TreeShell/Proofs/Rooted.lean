import TreeShell.Proofs.Navigation
/-!
# Rooted targets

A target is rooted when it starts with a slash or a tilde: it is read from the root or from home, and never from
where the session stands (`Path.resolve_of_isRooted`). Runs from one session differ only in where they end
(`displaced_after`), so a rooted target comes to the same behind all of them, and going there once more changes
nothing (`rooted_targets_forget`).
-/

namespace TreeShell

open Text

/-- A target that is not read from the current location. -/
def IsRooted (target : String) : Prop := target.toList.head? = some '/' ∨ target.toList.head? = some '~'

theorem Path.start_of_isRooted {target : String} (h : IsRooted target) (current other home : Path) :
    start target current home = start target other home := by
  obtain ⟨c, cs, hcs, hc⟩ : ∃ c cs, target.toList = c :: cs ∧ (c = '/' ∨ c = '~') := by
    rcases h with h | h
    · obtain ⟨cs, hcs⟩ := List.head?_eq_some_iff.1 h
      exact ⟨'/', cs, hcs, .inl rfl⟩
    · obtain ⟨cs, hcs⟩ := List.head?_eq_some_iff.1 h
      exact ⟨'~', cs, hcs, .inr rfl⟩
  unfold start
  rw [hcs]
  -- Only the last form is read from the current location, and it starts with neither character.
  split
  · rfl
  · rfl
  · rfl
  · rfl
  · next hslash _ _ htilde => rcases hc with rfl | rfl <;> simp_all

theorem Path.resolve_of_isRooted {target : String} (h : IsRooted target) (current other home : Path) :
    resolve target current home = resolve target other home := by
  rw [resolve_eq, resolve_eq, start_of_isRooted h current other home]

theorem isWord_of_isRooted {target : String} (h : IsRooted target) (hblank : ∀ c ∈ target.toList, isBlank c = false) :
    IsWord target.toList := by
  refine ⟨?_, hblank⟩
  intro he
  rcases h with h | h <;> simp [he] at h

namespace Interpreter

/-- Lines move a session and change nothing else. -/
theorem exists_after (it : Interpreter) (lines : List String) :
    ∃ place, it.after lines = { it with session := it.session.moveTo place } := by
  induction lines generalizing it with
  | nil => exact ⟨it.session.current, rfl⟩
  | cons line lines ih =>
    obtain ⟨between, hline, -⟩ := it.evaluate_next line
    obtain ⟨place, hrest⟩ := ih (it.evaluate line).next
    refine ⟨place, ?_⟩
    rw [after_cons, hrest, hline]
    rfl

/-- Another session over the same tree, of the same user and with the same home, that stands anywhere. -/
def Displaced (it there : Interpreter) : Prop := ∃ place, there = { it with session := it.session.moveTo place }

theorem displaced_after (it : Interpreter) (lines others : List String) :
    Displaced (it.after lines) (it.after others) := by
  obtain ⟨here, hhere⟩ := it.exists_after lines
  obtain ⟨place, hplace⟩ := it.exists_after others
  refine ⟨place, ?_⟩
  rw [hhere, hplace]
  rfl

section Going

variable {it there : Interpreter} {target : String}

theorem Displaced.tree (h : Displaced it there) : there.tree = it.tree := by
  obtain ⟨place, rfl⟩ := h
  rfl

theorem Displaced.resolve (h : Displaced it there) (hroot : IsRooted target) :
    there.resolve target = it.resolve target := by
  obtain ⟨place, rfl⟩ := h
  exact Path.resolve_of_isRooted hroot ..

/-- `cd` either enters the directory that its target names or answers one line and stays. -/
theorem Placed.cd_enters_or_stays (hp : it.Placed) (hw : IsWord target.toList) :
    (it.Succeeds ("cd " ++ target) ∧ it.Leads "cd" target (it.resolve target) []) ∨
      (¬it.Succeeds ("cd " ++ target) ∧
        it.Leads "cd" target it.session.current ["cd: no such directory: " ++ target]) := by
  have hiff := hp.succeeds_cd_iff (tokens_cd hw)
  by_cases hs : it.Succeeds ("cd " ++ target)
  · obtain ⟨entries, hl⟩ := hiff.1 hs
    exact .inl ⟨hs, hp.cd_leads hl⟩
  · exact .inr ⟨hs, hp.cd_stays fun entries hl => hs (hiff.2 ⟨entries, hl⟩)⟩

theorem Displaced.succeeds_cd_iff (h : Displaced it there) (hp : it.Placed) (hp' : there.Placed)
    (hw : IsWord target.toList) (hroot : IsRooted target) :
    it.Succeeds ("cd " ++ target) ↔ there.Succeeds ("cd " ++ target) := by
  rw [hp.succeeds_cd_iff (tokens_cd hw), hp'.succeeds_cd_iff (tokens_cd hw), h.tree, h.resolve hroot]

/-- Where a rooted target cannot be gone to, both stay and answer the same; where it can, both end in one state. -/
theorem Displaced.cd_agrees (h : Displaced it there) (hp : it.Placed) (hp' : there.Placed)
    (hw : IsWord target.toList) (hroot : IsRooted target) :
    (it.Succeeds ("cd " ++ target) ∧
      (it.evaluate ("cd " ++ target)).next = { it with session := it.session.moveTo (it.resolve target) } ∧
      (there.evaluate ("cd " ++ target)).next = (it.evaluate ("cd " ++ target)).next ∧
      (it.evaluate ("cd " ++ target)).evaluation.output = [] ∧
      (there.evaluate ("cd " ++ target)).evaluation.output = []) ∨
    (¬it.Succeeds ("cd " ++ target) ∧
      (it.evaluate ("cd " ++ target)).next = it ∧ (there.evaluate ("cd " ++ target)).next = there ∧
      (it.evaluate ("cd " ++ target)).evaluation.output = ["cd: no such directory: " ++ target] ∧
      (there.evaluate ("cd " ++ target)).evaluation.output = ["cd: no such directory: " ++ target]) := by
  have ht := tokens_cd hw
  have hiff := h.succeeds_cd_iff hp hp' hw hroot
  rcases hp.cd_enters_or_stays hw with ⟨hs, hl⟩ | ⟨hno, hl⟩
  · rcases hp'.cd_enters_or_stays hw with ⟨-, hl'⟩ | ⟨hno', -⟩
    · obtain ⟨hn, ho⟩ := hl _ _ ht
      obtain ⟨hn', ho'⟩ := hl' _ _ ht
      refine .inl ⟨hs, hn, ?_, ho, ho'⟩
      rw [hn', hn, h.resolve hroot]
      obtain ⟨place, rfl⟩ := h
      rfl
    · exact absurd (hiff.1 hs) hno'
  · rcases hp'.cd_enters_or_stays hw with ⟨hs', -⟩ | ⟨-, hl'⟩
    · exact absurd (hiff.2 hs') hno
    · obtain ⟨hn, ho⟩ := hl _ _ ht
      obtain ⟨hn', ho'⟩ := hl' _ _ ht
      exact .inr ⟨hno, hn, hn', ho, ho'⟩

theorem Displaced.output_cat (h : Displaced it there) (hw : IsWord target.toList) (hroot : IsRooted target) :
    (it.evaluate ("cat " ++ target)).evaluation.output = (there.evaluate ("cat " ++ target)).evaluation.output := by
  rw [(it.evaluate_cat (tokens_cat hw)).2, (there.evaluate_cat (tokens_cat hw)).2, h.tree, h.resolve hroot]

/-- Going to a rooted target twice is going there once: behind the first time the session is a displaced one. -/
theorem Placed.cd_again (hp : it.Placed) (hw : IsWord target.toList) (hroot : IsRooted target) :
    ((it.evaluate ("cd " ++ target)).next.evaluate ("cd " ++ target)).next = (it.evaluate ("cd " ++ target)).next ∧
      ((it.evaluate ("cd " ++ target)).next.evaluate ("cd " ++ target)).evaluation.output =
        (it.evaluate ("cd " ++ target)).evaluation.output := by
  obtain ⟨place, hmove, -⟩ := it.evaluate_next ("cd " ++ target)
  have hp' := hp.evaluate ("cd " ++ target)
  have hd : Displaced it (it.evaluate ("cd " ++ target)).next := ⟨place, hmove⟩
  rcases hd.cd_agrees hp hp' hw hroot with ⟨-, -, hagain, ho, ho'⟩ | ⟨-, -, hagain, ho, ho'⟩
  · exact ⟨hagain, ho'.trans ho.symm⟩
  · exact ⟨hagain, ho'.trans ho.symm⟩

end Going

/-! ## Main theorem -/

/-- What a session did before makes no difference to a rooted target. Behind any two runs `cd` goes there in the same
cases, to the same state, and otherwise answers the same line and stays; `cat` shows the same; and a second `cd` to
the target moves nowhere, answers what the first one did and leaves everything as it is. -/
theorem rooted_targets_forget (tree : Tree) (s : Settings.Session) (first : Interpreter)
    (ho : opened tree s.user s.host s.home = .ok first) (lines others : List String) (target : String)
    (hroot : target.toList.head? = some '/' ∨ target.toList.head? = some '~')
    (hblank : ∀ c ∈ target.toList, isBlank c = false) :
    let it := first.after lines
    let there := first.after others
    let once := it.evaluate ("cd " ++ target)
    let elsewhere := there.evaluate ("cd " ++ target)
    let again := once.next.evaluate ("cd " ++ target)
    (it.Succeeds ("cd " ++ target) ↔ there.Succeeds ("cd " ++ target)) ∧
    (it.Succeeds ("cd " ++ target) → once.next = elsewhere.next ∧ once.next.session.current = it.resolve target) ∧
    (¬it.Succeeds ("cd " ++ target) → once.next = it ∧ elsewhere.next = there ∧
      once.evaluation.output = ["cd: no such directory: " ++ target]) ∧
    once.evaluation.output = elsewhere.evaluation.output ∧
    (it.evaluate ("cat " ++ target)).evaluation.output = (there.evaluate ("cat " ++ target)).evaluation.output ∧
    again.evaluation.moved = false ∧ again.next = once.next ∧ again.evaluation.output = once.evaluation.output := by
  have hw := isWord_of_isRooted hroot hblank
  have hr : first.Reachable := .opened ho
  have hp := (hr.after lines).placed
  have hp' := (hr.after others).placed
  have hd := first.displaced_after lines others
  have hiff := hd.succeeds_cd_iff hp hp' hw hroot
  have hcat := hd.output_cat hw hroot
  obtain ⟨hnext, houtput⟩ := hp.cd_again hw hroot
  have hmoved := (moved_eq_false_iff ..).2 hnext
  rcases hd.cd_agrees hp hp' hw hroot with ⟨hs, hn, hn', ho, ho'⟩ | ⟨hno, hn, hn', ho, ho'⟩
  · exact ⟨hiff, fun _ => ⟨hn'.symm, congrArg (·.session.current) hn⟩, fun hno => absurd hs hno, ho.trans ho'.symm,
      hcat, hmoved, hnext, houtput⟩
  · exact ⟨hiff, fun hs => absurd hs hno, fun _ => ⟨hn, hn', ho⟩, ho.trans ho'.symm, hcat, hmoved, hnext, houtput⟩

/-- A name under home that starts with a tilde, from the root and from inside the directory of that name. -/
theorem rooted_targets_forget_tilde :
    let tree : Tree := ⟨⟨[("home", .directory [("~srv", .directory [])])]⟩⟩
    let first : Interpreter := ⟨tree, "recruit", "dcib", .opened (.ofTokens ["home"])⟩
    let it := first.after ["cd /"]
    let there := first.after ["ls", "cd ~srv"]
    it.session.current ≠ there.session.current ∧ it.Succeeds ("cd " ++ "~srv/../~srv") ∧
      (it.evaluate ("cd " ++ "~srv/../~srv")).next = (there.evaluate ("cd " ++ "~srv/../~srv")).next ∧
      ((it.evaluate ("cd " ++ "~srv/../~srv")).next.evaluate ("cd " ++ "~srv/../~srv")).evaluation.moved = false := by
  intro tree first it there
  have ho : opened tree "recruit" "dcib" (.ofTokens ["home"]) = .ok first := rfl
  have hblank : ∀ c ∈ "~srv/../~srv".toList, isBlank c = false := by simp; decide
  have hroot : IsRooted "~srv/../~srv" := .inr (by decide +kernel)
  have hp : it.Placed := ((Reachable.opened ho).after _).placed
  have hs : it.Succeeds ("cd " ++ "~srv/../~srv") :=
    (hp.succeeds_cd_iff (tokens_cd (isWord_of_isRooted hroot hblank))).2 ⟨[], rfl⟩
  obtain ⟨-, hgo, -, -, -, hmoved, -⟩ :=
    rooted_targets_forget tree { home := .ofTokens ["home"] } first ho ["cd /"] ["ls", "cd ~srv"] _ hroot hblank
  exact ⟨by decide +kernel, hs, (hgo hs).1, hmoved⟩

end Interpreter

end TreeShell
