import TreeShell.Bureau
import TreeShell.Proofs.Evaluation
/-!
# Sessions over one tree

Sessions that share a tree share nothing else: a line leaves the tree as it is and changes the session that it
is addressed to (`interpreter_evaluate_of_ne`). So what a session shows and where it ends depends on its own
lines alone (`run_own`). A line that is reported not to move leaves no trace (`moved_eq_false_iff`), and may as
well be left out (`evaluateAll_kept`).
-/

namespace TreeShell

open Text

/-! ## Lines that are left out -/

/-- The elements at the places that are to be kept. -/
def kept {α : Type} (keep : Nat → Bool) : List α → List α
  | [] => []
  | a :: rest =>
    if keep 0 then a :: kept (fun n => keep (n + 1)) rest else kept (fun n => keep (n + 1)) rest

/-- Lines that are reported not to move may be left out: the others come to the same. -/
theorem Interpreter.evaluateAll_kept (it : Interpreter) (lines : List String) (keep : Nat → Bool)
    (h : ∀ n e, (it.evaluateAll lines).1[n]? = some e → keep n = false → e.moved = false) :
    (it.evaluateAll (kept keep lines)).1 = kept keep (it.evaluateAll lines).1 ∧
      it.after (kept keep lines) = it.after lines := by
  -- A line that is left out moves every later one up, so the induction is for all ways of keeping.
  induction lines generalizing it keep with
  | nil => exact ⟨rfl, rfl⟩
  | cons line rest ih =>
    rw [evaluateAll_cons] at h ⊢
    have hrest := ih (it.evaluate line).next (fun n => keep (n + 1)) fun n e hn => h (n + 1) e (by simpa using hn)
    cases hk : keep 0 with
    | true =>
      simp only [kept, hk, if_true, evaluateAll_cons, after_cons, hrest, and_self]
    | false =>
      have hnext : (it.evaluate line).next = it := (it.moved_eq_false_iff line).1 (h 0 _ rfl hk)
      rw [hnext] at hrest
      simpa only [kept, hk, Bool.false_eq_true, if_false, after_cons, hnext] using hrest

/-! ## Sessions over one tree -/

/-- A session without the tree that it is over. -/
structure Seat where
  user : String
  host : String
  session : Session
  deriving DecidableEq

/-- Sessions that share a tree. -/
structure Sessions (ι : Type) where
  tree : Tree
  seat : ι → Seat

namespace Sessions

variable {ι : Type}

/-- One of the sessions, with the tree. -/
def interpreter (s : Sessions ι) (i : ι) : Interpreter :=
  ⟨s.tree, (s.seat i).user, (s.seat i).host, (s.seat i).session⟩

/-- What is addressed to a session, in order. -/
def own {α : Type} [DecidableEq ι] (i : ι) (addressed : List (ι × α)) : List α :=
  (addressed.filter fun x => x.1 = i).map Prod.snd

variable [DecidableEq ι]

/-- Evaluates a line in a session. The tree and the session's seat are afterwards what the line made of them. -/
def evaluate (s : Sessions ι) (i : ι) (raw : String) : Evaluation × Sessions ι :=
  let reply := (s.interpreter i).evaluate raw
  let seat : Seat := ⟨reply.next.user, reply.next.host, reply.next.session⟩
  (reply.evaluation, ⟨reply.next.tree, fun j => if j = i then seat else s.seat j⟩)

/-- Evaluates lines in the order in which they come, each in the session that it is addressed to. -/
def run (s : Sessions ι) : List (ι × String) → List (ι × Evaluation) × Sessions ι
  | [] => ([], s)
  | (i, raw) :: rest =>
    let first := s.evaluate i raw
    let others := first.2.run rest
    ((i, first.1) :: others.1, others.2)

theorem run_cons (s : Sessions ι) (i : ι) (raw : String) (rest : List (ι × String)) :
    s.run ((i, raw) :: rest) =
      ((i, (s.evaluate i raw).1) :: ((s.evaluate i raw).2.run rest).1, ((s.evaluate i raw).2.run rest).2) := by
  rw [run]

section Own

variable {α : Type}

@[simp] theorem own_cons_self (i : ι) (a : α) (rest : List (ι × α)) : own i ((i, a) :: rest) = a :: own i rest := by
  simp [own]

theorem own_cons_of_ne {i j : ι} (h : j ≠ i) (a : α) (rest : List (ι × α)) :
    own i ((j, a) :: rest) = own i rest := by
  simp [own, h]

end Own

theorem evaluate_fst (s : Sessions ι) (i : ι) (raw : String) :
    (s.evaluate i raw).1 = ((s.interpreter i).evaluate raw).evaluation := by
  rw [evaluate]

theorem interpreter_evaluate_self (s : Sessions ι) (i : ι) (raw : String) :
    (s.evaluate i raw).2.interpreter i = ((s.interpreter i).evaluate raw).next := by
  simp only [evaluate, interpreter, if_pos]

/-- The other sessions are as they were, because the tree is. -/
theorem interpreter_evaluate_of_ne (s : Sessions ι) {i j : ι} (h : i ≠ j) (raw : String) :
    (s.evaluate j raw).2.interpreter i = s.interpreter i := by
  have ht : ((s.interpreter j).evaluate raw).next.tree = s.tree := (s.interpreter j).evaluate_tree raw
  simp only [interpreter, evaluate] at ht ⊢
  rw [ht, if_neg h]

/-- What a session shows and where it ends is what its own lines come to without the others. -/
theorem run_own (s : Sessions ι) (lines : List (ι × String)) (i : ι) :
    own i (s.run lines).1 = ((s.interpreter i).evaluateAll (own i lines)).1 ∧
      (s.run lines).2.interpreter i = (s.interpreter i).after (own i lines) := by
  induction lines generalizing s with
  | nil => exact ⟨rfl, rfl⟩
  | cons line rest ih =>
    obtain ⟨j, raw⟩ := line
    obtain ⟨hshown, hlast⟩ := ih (s.evaluate j raw).2
    rw [run_cons]
    by_cases h : j = i
    · subst h
      rw [interpreter_evaluate_self] at hshown hlast
      rw [own_cons_self, own_cons_self, Interpreter.evaluateAll_cons, Interpreter.after_cons, hshown, evaluate_fst]
      exact ⟨rfl, hlast⟩
    · rw [interpreter_evaluate_of_ne s (Ne.symm h)] at hshown hlast
      rw [own_cons_of_ne h, own_cons_of_ne h]
      exact ⟨hshown, hlast⟩

/-! ## Main theorem -/

/-- Of lines that come to several sessions over one tree in any order, each session makes what it makes of its
own lines alone, and ends where these alone lead. Of its own lines again, any that are reported not to move may
be left out, and the others come to the same and end at the same place. Such are all lines without an effect,
among them blank ones, those that do not start with `cd`, and those that fail. -/
theorem sessions_do_not_interfere (s : Sessions ι) (lines : List (ι × String)) (i : ι) :
    let alone := s.interpreter i
    own i (s.run lines).1 = (alone.evaluateAll (own i lines)).1 ∧
    (s.run lines).2.interpreter i = alone.after (own i lines) ∧
    (∀ keep : Nat → Bool,
      (∀ n e, (alone.evaluateAll (own i lines)).1[n]? = some e → keep n = false → e.moved = false) →
      (alone.evaluateAll (kept keep (own i lines))).1 = kept keep (alone.evaluateAll (own i lines)).1 ∧
        alone.after (kept keep (own i lines)) = alone.after (own i lines)) ∧
    ∀ (it : Interpreter) (raw : String),
      ((it.evaluate raw).evaluation.moved = false ↔ (it.evaluate raw).next = it) ∧
      ((tokens raw).head? ≠ some "cd" → (it.evaluate raw).evaluation.moved = false) ∧
      ∀ name args e, tokens raw = name :: args → (it.invoke ⟨name, args⟩).result = .error e →
        (it.evaluate raw).evaluation.moved = false := by
  intro alone
  obtain ⟨hshown, hlast⟩ := s.run_own lines i
  refine ⟨hshown, hlast, alone.evaluateAll_kept _, ?_⟩
  intro it raw
  exact ⟨it.moved_eq_false_iff raw, Interpreter.not_moved_of_head?, fun _ _ _ => Interpreter.not_moved_of_error⟩

/-- Two sessions take turns. The first could have done without its `pwd`. -/
theorem sessions_do_not_interfere_pwd :
    let seat : Seat := ⟨"recruit", "dcib", .opened (.ofTokens ["home", "recruit"])⟩
    let s : Sessions Bool := ⟨Bureau.tree, fun _ => seat⟩
    let lines := [(false, "cd secure"), (true, "ls"), (false, "pwd"), (true, "cd records"),
      (false, "cat credentials.txt")]
    let alone := s.interpreter false
    own false (s.run lines).1 = (alone.evaluateAll ["cd secure", "pwd", "cat credentials.txt"]).1 ∧
    (s.run lines).2.interpreter true = (s.interpreter true).after ["ls", "cd records"] ∧
    (alone.evaluateAll ["cd secure", "cat credentials.txt"]).1 =
      kept (· != 1) (alone.evaluateAll ["cd secure", "pwd", "cat credentials.txt"]).1 := by
  intro seat s lines alone
  obtain ⟨hshown, -, hkept, hstill⟩ := sessions_do_not_interfere s lines false
  obtain ⟨-, hlast, -⟩ := sessions_do_not_interfere s lines true
  have hleft (n : Nat) (e : Evaluation)
      (he : (alone.evaluateAll ["cd secure", "pwd", "cat credentials.txt"]).1[n]? = some e)
      (hn : (n != 1) = false) : e.moved = false := by
    obtain rfl : n = 1 := by simpa using hn
    obtain rfl : ((alone.evaluate "cd secure").next.evaluate "pwd").evaluation = e := Option.some.inj he
    obtain ⟨-, hpwd, -⟩ := hstill (alone.evaluate "cd secure").next "pwd"
    exact hpwd (by decide +kernel)
  exact ⟨hshown, hlast, (hkept _ hleft).1⟩

end Sessions

end TreeShell
