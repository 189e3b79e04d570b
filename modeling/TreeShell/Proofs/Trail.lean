import Mathlib.Data.List.Chain
import TreeShell.Proofs.Evaluation
import TreeShell.Proofs.Expansion
/-!
# The trail of a session

The events of a session tell what it did. A line with a word leaves one report of its command and, if it moved the
session, one report of the move behind it; a blank line leaves nothing (`events_evaluate`). The moves of a run are
a way from where it starts to where it ends, each step between two texts that differ (`Way`, `way_movesOf`): a move
is reported only if the location changed, and locations whose names hold no slash are told apart by their text.
-/

namespace TreeShell

open Text

/-- What a reader of the log is shown of an event. -/
def Event.shown (e : Event) : Level × String × List (String × FieldValue) := (e.level, e.message, e.fields)

theorem Event.shown_succeeded (command : String) (lines : Nat) :
    (Event.succeeded command lines).shown =
      (.debug, "command succeeded", [("command", .word command), ("lines", .count lines)]) := rfl

theorem Event.shown_failed (command : String) (error : CommandError) :
    (Event.failed command error).shown =
      (.debug, "command failed", [("command", .word command), ("error", .plain error.message)]) := rfl

/-- The texts of the two locations that a report of a move names. -/
def Event.ends? : Event → Option (String × String)
  | moved origin destination => some (origin.text, destination.text)
  | _ => none

/-- Steps that lead from one text to another, each from where the last one led to something else. -/
inductive Way : String → List (String × String) → String → Prop
  | here (place : String) : Way place [] place
  | step {origin next place : String} {steps : List (String × String)} (hne : origin ≠ next)
    (h : Way next steps place) : Way origin ((origin, next) :: steps) place

namespace Way

variable {origin place : String} {steps : List (String × String)}

theorem ne_of_mem (h : Way origin steps place) : ∀ step ∈ steps, step.1 ≠ step.2 := by
  induction h with
  | here => simp
  | step hne _ ih => exact List.forall_mem_cons.2 ⟨hne, ih⟩

theorem head_eq (h : Way origin steps place) : ∀ step ∈ steps.head?, step.1 = origin := by
  cases h <;> simp

theorem isChain (h : Way origin steps place) : steps.IsChain fun step following => step.2 = following.1 := by
  induction h with
  | here => exact .nil
  | @step origin next place steps hne h ih =>
    rw [List.isChain_cons]
    exact ⟨fun following hf => (h.head_eq following hf).symm, ih⟩

theorem getLast_eq (h : Way origin steps place) : (steps.getLast?.map Prod.snd).getD origin = place := by
  induction h with
  | here => rfl
  | @step origin next place steps hne h ih =>
    cases steps with
    | nil => exact ih
    | cons => simpa [List.getLast?_cons_cons, List.getLast?_cons] using ih

end Way

namespace Interpreter

/-! ## The replies of a run -/

/-- The replies to lines, each in the state that the lines before it lead to. -/
def replies (it : Interpreter) : List String → List Reply
  | [] => []
  | line :: lines => it.evaluate line :: (it.evaluate line).next.replies lines

theorem replies_getElem? (it : Interpreter) (lines : List String) (n : Nat) :
    (it.replies lines)[n]? = lines[n]?.map fun line => (it.after (lines.take n)).evaluate line := by
  induction lines generalizing it n with
  | nil => simp [replies]
  | cons line rest ih =>
    cases n with
    | zero => rfl
    | succ n => simp [replies, ih]

/-- The events of a run are those of its replies, in order. -/
theorem events_evaluateAll (it : Interpreter) (lines : List String) :
    (it.evaluateAll lines).2.1 = (it.replies lines).flatMap Reply.events := by
  induction lines generalizing it with
  | nil => rfl
  | cons line rest ih => rw [evaluateAll_cons, ih, replies, List.flatMap_cons]

/-! ## The events of a line -/

/-- A command has nothing of its own to report: a session at a directory always has one to list. -/
theorem Placed.events_eq_nil {it : Interpreter} (hp : it.Placed) {request : Request} {ending : Ending}
    (h : it.Answers request ending) {answer : Answer} (hok : ending.result = .ok answer) : answer.events = [] := by
  obtain ⟨dir, hd⟩ := hp.directory
  cases h with
  | misplaced _ hm =>
    rw [hd] at hm
    cases hm
  | listed | wentHome | entered | shown | located | cleared =>
    cases hok
    rfl
  | _ => cases hok

/-- What a line that moved the session reports of it. -/
def report (before : Interpreter) (r : Reply) : List Event :=
  if r.evaluation.moved then [.moved before.session.current r.next.session.current] else []

/-- The report of a line's command, by how the command ended, and of the move behind it. -/
theorem events_evaluate {it : Interpreter} (hp : it.Placed) (raw : String) :
    (tokens raw = [] ∧ (it.evaluate raw).events = [] ∧ (it.evaluate raw).next = it) ∨
    ∃ name args, tokens raw = name :: args ∧
      ((∃ answer, (it.invoke ⟨name, args⟩).result = .ok answer ∧ (it.evaluate raw).evaluation.output = answer.lines ∧
          (it.evaluate raw).events = .succeeded name answer.lines.length :: it.report (it.evaluate raw)) ∨
        ∃ e, (it.invoke ⟨name, args⟩).result = .error e ∧ (it.evaluate raw).evaluation.output = [e.message] ∧
          (it.evaluate raw).events = .failed name e :: it.report (it.evaluate raw)) := by
  rcases it.evaluate_cases raw with ⟨ht, he⟩ | ⟨name, args, ht, he, ha⟩
  · exact .inl ⟨ht, by rw [he], by rw [he]⟩
  · refine .inr ⟨name, args, ht, ?_⟩
    rw [he]
    cases h : (it.invoke ⟨name, args⟩).result with
    | error e =>
      refine .inr ⟨e, rfl, ?_⟩
      rw [reply_of_error h]
      exact ⟨rfl, rfl⟩
    | ok answer =>
      refine .inl ⟨answer, rfl, ?_⟩
      have hnil : answer.events = [] := hp.events_eq_nil ha h
      simp [reply, report, Ending.lines, Ending.events, h, hnil]

/-- In front of the report of its move a line leaves nothing that tells of moves or errors. -/
theorem Placed.exists_commands {it : Interpreter} (hp : it.Placed) (raw : String) :
    ∃ commands, (it.evaluate raw).events = commands ++ it.report (it.evaluate raw) ∧
      ∀ e ∈ commands, e.level = .debug ∧ e.ends? = none := by
  rcases events_evaluate hp raw with ⟨-, h, hn⟩ | ⟨name, args, -, ⟨answer, -, -, h⟩ | ⟨e, -, -, h⟩⟩
  · have hreport : it.report (it.evaluate raw) = [] := by rw [report, (it.moved_eq_false_iff raw).2 hn, if_neg (by simp)]
    exact ⟨[], by rw [h, hreport]; rfl, by simp⟩
  · refine ⟨[.succeeded name answer.lines.length], ?_, by simp [Event.level, Event.ends?]⟩
    rw [h, List.singleton_append]
  · refine ⟨[.failed name e], ?_, by simp [Event.level, Event.ends?]⟩
    rw [h, List.singleton_append]

theorem Placed.level_ne_error {it : Interpreter} (hp : it.Placed) {raw : String} {e : Event}
    (he : e ∈ (it.evaluate raw).events) : e.level ≠ .error := by
  obtain ⟨commands, h, hcommands⟩ := hp.exists_commands raw
  rw [h] at he
  rcases List.mem_append.1 he with he | he
  · rw [(hcommands e he).1]
    simp
  · unfold report at he
    split at he <;> simp at he
    simp [he, Event.level]

/-! ## The moves of a run -/

/-- The moves that events report. -/
def movesOf (events : List Event) : List (String × String) := events.filterMap Event.ends?

/-- How a log shows a move. -/
def shownMove (step : String × String) : Level × String × List (String × FieldValue) :=
  (.info, "changed directory", [("from", .plain step.1), ("to", .plain step.2)])

/-- Of all that a line reports only the move is meant for everyone to know. -/
theorem Placed.shown_infos {it : Interpreter} (hp : it.Placed) (raw : String) :
    ((it.evaluate raw).events.filter fun e => e.level = .info).map Event.shown =
      (movesOf (it.evaluate raw).events).map shownMove := by
  obtain ⟨commands, h, hcommands⟩ := hp.exists_commands raw
  have hinfo : commands.filter (fun e => e.level = .info) = [] := by
    rw [List.filter_eq_nil_iff]
    intro e he
    simp [(hcommands e he).1]
  have hends : commands.filterMap Event.ends? = [] := List.filterMap_eq_nil_iff.2 fun e he => (hcommands e he).2
  rw [h, movesOf, List.filter_append, List.filterMap_append, hinfo, hends, List.nil_append, List.nil_append]
  -- What the reply is does not matter here, and is not to be evaluated.
  generalize it.evaluate raw = r
  unfold report
  split <;> rfl

/-- A line's moves lead from where the session stood to where it stands. -/
theorem movesOf_evaluate {it : Interpreter} (hp : it.Placed) (raw : String) :
    movesOf (it.evaluate raw).events =
      if (it.evaluate raw).next.session.current = it.session.current then []
      else [(it.session.current.text, (it.evaluate raw).next.session.current.text)] := by
  obtain ⟨commands, h, hcommands⟩ := hp.exists_commands raw
  have hends : commands.filterMap Event.ends? = [] := List.filterMap_eq_nil_iff.2 fun e he => (hcommands e he).2
  rw [h, movesOf, List.filterMap_append, hends, List.nil_append, report]
  by_cases hc : (it.evaluate raw).next.session.current = it.session.current
  · have hm : (it.evaluate raw).evaluation.moved = false := by
      rw [← Bool.not_eq_true, it.moved_iff raw]
      exact fun hne => hne hc
    rw [if_pos hc, if_neg (by simp [hm])]
    rfl
  · have hm : (it.evaluate raw).evaluation.moved = true := (it.moved_iff raw).2 hc
    rw [if_neg hc, if_pos hm]
    rfl

/-- The moves that a run reports are a way from where it starts to where it ends. -/
theorem way_movesOf {it : Interpreter} (hp : it.Placed) (hh : it.session.home.Plain) (hc : it.session.current.Plain)
    (lines : List String) :
    Way it.session.current.text (movesOf (it.evaluateAll lines).2.1) (it.after lines).session.current.text := by
  induction lines generalizing it with
  | nil => exact .here _
  | cons line rest ih =>
    have hplain : (it.evaluate line).next.session.current.Plain := plain_evaluate hh hc line
    have hrest := ih (hp.evaluate line) (by rw [evaluate_home]; exact hh) hplain
    rw [evaluateAll_cons, after_cons, movesOf, List.filterMap_append, ← movesOf, ← movesOf, movesOf_evaluate hp]
    split
    · next h =>
      rw [h] at hrest
      exact hrest
    · next h => exact .step (fun ht => h (Path.eq_of_text_eq hplain hc ht.symm)) hrest

/-- A run reports to everyone its moves and nothing else, and reports no error. -/
theorem Placed.shown_infos_evaluateAll {it : Interpreter} (hp : it.Placed) (lines : List String) :
    (((it.evaluateAll lines).2.1.filter fun e => e.level = .info).map Event.shown =
      (movesOf (it.evaluateAll lines).2.1).map shownMove) ∧
    ∀ e ∈ (it.evaluateAll lines).2.1, e.level ≠ .error := by
  induction lines generalizing it with
  | nil => exact ⟨rfl, by simp [evaluateAll]⟩
  | cons line rest ih =>
    obtain ⟨hinfos, hlevel⟩ := ih (hp.evaluate line)
    rw [evaluateAll_cons]
    refine ⟨?_, ?_⟩
    · have hline := hp.shown_infos line
      simp only [movesOf, List.filter_append, List.filterMap_append, List.map_append] at hinfos hline ⊢
      rw [hinfos, hline]
    · intro e he
      rcases List.mem_append.1 he with he | he
      · exact hp.level_ne_error he
      · exact hlevel e he

/-- How a log shows what a line reports. -/
theorem Placed.shown_events {it : Interpreter} (hp : it.Placed) (raw : String) :
    let r := it.evaluate raw
    (tokens raw = [] → r.events = []) ∧
    ∀ name args, tokens raw = name :: args →
      let move := if r.evaluation.moved then
        [shownMove (it.session.current.text, r.next.session.current.text)] else []
      ((∃ answer, (it.invoke ⟨name, args⟩).result = .ok answer) ∧
        r.events.map Event.shown =
          (.debug, "command succeeded",
            [("command", .word name), ("lines", .count r.evaluation.output.length)]) :: move) ∨
      ∃ e, (it.invoke ⟨name, args⟩).result = .error e ∧ r.evaluation.output = [e.message] ∧
        r.events.map Event.shown =
          (.debug, "command failed", [("command", .word name), ("error", .plain e.message)]) :: move := by
  have hcases := events_evaluate hp raw
  dsimp only
  generalize it.evaluate raw = r at hcases
  have hmove : (it.report r).map Event.shown =
      if r.evaluation.moved then [shownMove (it.session.current.text, r.next.session.current.text)] else [] := by
    unfold report
    split <;> rfl
  rcases hcases with ⟨ht, h, -⟩ | ⟨name, args, ht, hcases⟩
  · exact ⟨fun _ => h, fun name args hcons => by simp [ht] at hcons⟩
  · refine ⟨fun hnil => by simp [ht] at hnil, ?_⟩
    intro name' args' hcons
    obtain ⟨rfl, rfl⟩ : name = name' ∧ args = args' := by simpa [ht] using hcons
    rcases hcases with ⟨answer, hok, hout, h⟩ | ⟨e, herror, hout, h⟩
    · refine .inl ⟨⟨answer, hok⟩, ?_⟩
      rw [h, List.map_cons, hmove, hout, Event.shown_succeeded]
    · refine .inr ⟨e, herror, hout, ?_⟩
      rw [h, List.map_cons, hmove, Event.shown_failed]

/-! ## Main theorem -/

/-- The events of a run from an opened session are those of its lines, in order. A blank line reports nothing. Any
other reports its first word, with the number of lines it showed or else with the one line that says what went
wrong, and behind that its move, if its evaluation says that it moved. Nothing is reported as an error. What is
reported to everyone is moves, which lead without a gap from home to where the session stands, each of them
between two texts that differ. -/
theorem trail_of_run {tree : Tree} {user host : String} {home : Path} {first : Interpreter}
    (hf : opened tree user host home = .ok first) (hh : ∀ name ∈ home.segments, '/' ∉ name.toList)
    (lines : List String) :
    let events := (first.evaluateAll lines).2.1
    events = (first.replies lines).flatMap Reply.events ∧
    (∀ n, (first.replies lines)[n]? = lines[n]?.map fun line => (first.after (lines.take n)).evaluate line) ∧
    (∀ n line, lines[n]? = some line →
      let before := first.after (lines.take n)
      let r := before.evaluate line
      (tokens line = [] → r.events = []) ∧
      ∀ name args, tokens line = name :: args →
        let move := if r.evaluation.moved then
          [shownMove (before.session.current.text, r.next.session.current.text)] else []
        ((∃ answer, (before.invoke ⟨name, args⟩).result = .ok answer) ∧
          r.events.map Event.shown =
            (.debug, "command succeeded",
              [("command", .word name), ("lines", .count r.evaluation.output.length)]) :: move) ∨
        ∃ e, (before.invoke ⟨name, args⟩).result = .error e ∧ r.evaluation.output = [e.message] ∧
          r.events.map Event.shown =
            (.debug, "command failed", [("command", .word name), ("error", .plain e.message)]) :: move) ∧
    (∀ e ∈ events, e.level ≠ .error) ∧
    ∃ moves : List (String × String),
      (events.filter fun e => e.level = .info).map Event.shown = moves.map shownMove ∧
      (∀ step ∈ moves.head?, step.1 = home.text) ∧
      moves.IsChain (fun step following => step.2 = following.1) ∧
      (∀ step ∈ moves, step.1 ≠ step.2) ∧
      (moves.getLast?.map Prod.snd).getD home.text = (first.after lines).session.current.text := by
  intro events
  have hp : first.Placed := placed_of_opened hf
  obtain ⟨hinfos, hlevel⟩ := hp.shown_infos_evaluateAll lines
  have hway : Way home.text (movesOf events) (first.after lines).session.current.text := by
    obtain ⟨-, rfl⟩ := (opened_eq_ok_iff ..).1 hf
    exact way_movesOf hp hh hh lines
  refine ⟨first.events_evaluateAll lines, first.replies_getElem? lines, ?_, hlevel,
    ⟨movesOf events, hinfos, hway.head_eq, hway.isChain, hway.ne_of_mem, hway.getLast_eq⟩⟩
  intro n line _
  have hbefore : (first.after (lines.take n)).Placed := ((Reachable.opened hf).after _).placed
  exact hbefore.shown_events line

/-- The recruit goes into a directory, types a blank line, fails to enter a file, goes up twice and home again. -/
theorem trail_of_run_secure :
    let home := Path.ofTokens ["home", "recruit"]
    let first : Interpreter := ⟨Bureau.tree, "recruit", "dcib", .opened home⟩
    let lines := ["cd secure", " ", "cd credentials.txt", "cd ../..", "cd"]
    opened Bureau.tree "recruit" "dcib" home = .ok first ∧ (∀ name ∈ home.segments, '/' ∉ name.toList) ∧
      ((first.after ["cd secure"]).evaluate " ").events = [] ∧
      (∀ e ∈ (first.evaluateAll lines).2.1, e.level ≠ .error) ∧
      ∃ moves : List (String × String),
        ((first.evaluateAll lines).2.1.filter fun e => e.level = .info).map Event.shown = moves.map shownMove ∧
        (∀ step ∈ moves.head?, step.1 = "/home/recruit") ∧
        moves.IsChain (fun step following => step.2 = following.1) ∧ ∀ step ∈ moves, step.1 ≠ step.2 := by
  intro home first lines
  have hf : opened Bureau.tree "recruit" "dcib" home = .ok first := rfl
  have hh : ∀ name ∈ home.segments, '/' ∉ name.toList := by decide +kernel
  have htext : home.text = "/home/recruit" := by decide +kernel
  obtain ⟨-, -, hline, hlevel, moves, hinfos, hhead, hchain, hne, -⟩ := trail_of_run hf hh lines
  obtain ⟨hblank, -⟩ := hline 1 " " rfl
  refine ⟨hf, hh, hblank (by decide +kernel), hlevel, moves, hinfos, ?_, hchain, hne⟩
  rw [← htext]
  exact hhead

end Interpreter

end TreeShell
