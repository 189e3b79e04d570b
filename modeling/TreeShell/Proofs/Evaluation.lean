import TreeShell.Proofs.Runs
/-!
# The shape of an evaluation

The reply to a line is read off how its request ends (`reply_of_invoke`, `reply_of_error`): a failure is one
line of output and nothing else, only `cd` moves, only `clear` clears, and no line gives more than one line
of output. So the report of a move tells whether the line did anything at all (`moved_eq_false_iff`).
`evaluate_shape` puts this together for every line.
-/

namespace TreeShell.Interpreter

open Text

/-! ## How requests end -/

/-- Only `cd` ends elsewhere, and then in silence. -/
theorem Answers.cd_of_moved {it : Interpreter} {request : Request} {ending : Ending} (h : it.Answers request ending)
    (hm : ending.session.current ≠ it.session.current) : request.name = "cd" ∧ ending.lines = [] := by
  cases h with
  | wentHome | entered => exact ⟨rfl, rfl⟩
  | _ => exact absurd rfl hm

theorem Answers.length_lines_le {it : Interpreter} {request : Request} {ending : Ending}
    (h : it.Answers request ending) : ending.lines.length ≤ 1 := by
  cases h <;> simp [Ending.lines]

/-- `clear` does not fail. -/
theorem Answers.ne_clear_of_error {it : Interpreter} {request : Request} {ending : Ending}
    (h : it.Answers request ending) {e : CommandError} (he : ending.result = .error e) : request.name ≠ "clear" := by
  cases h with
  | disallowed hn => exact fun heq => hn .clear heq.symm
  | cleared => cases he
  | _ => simp

theorem isClear_eq (name : String) : ((Command.ofName name).toOption == some .clear) = (name == "clear") := by
  rw [Bool.eq_iff_iff, beq_iff_eq, beq_iff_eq]
  constructor
  · intro h
    cases hc : Command.ofName name with
    | error e =>
      rw [hc] at h
      cases h
    | ok command =>
      rw [hc] at h
      cases h
      exact (Command.name_of_ofName hc).symm
  · rintro rfl
    rfl

/-- A name outside the vocabulary is refused, whatever stands behind it. -/
theorem invoke_of_notMem (it : Interpreter) {name : String} (h : name ∉ ["ls", "cd", "cat", "pwd", "clear"])
    (args : List String) : it.invoke ⟨name, args⟩ = ⟨it.session, .error (.disallowed name)⟩ := by
  have hn : Command.all.find? (fun command => command.name = name) = none := by
    -- The five names are the names of the five commands.
    rw [List.find?_eq_none]
    intro command _ hc
    have : command.name = name := by simpa using hc
    subst this
    cases command <;> simp [Command.name] at h
  simp [invoke, Command.ofName, hn]

/-! ## Replies -/

theorem reply_of_invoke {it : Interpreter} {request : Request} {ending : Ending} (h : it.invoke request = ending)
    (echo : String) :
    (it.reply echo request).next = { it with session := ending.session } ∧
      (it.reply echo request).evaluation =
        ⟨echo, ending.lines, ending.session.current != it.session.current, request.name == "clear"⟩ := by
  subst h
  exact ⟨rfl, congrArg (Evaluation.mk echo _ _) (isClear_eq request.name)⟩

theorem reply_of_error {it : Interpreter} {request : Request} {e : CommandError}
    (h : (it.invoke request).result = .error e) (echo : String) :
    it.reply echo request = ⟨⟨echo, [e.message], false, false⟩, [.failed request.name e], it⟩ := by
  have hsession := session_invoke_of_error h
  have hclear := (it.answers_invoke request).ne_clear_of_error h
  simp [reply, Ending.lines, Ending.events, h, hsession, isClear_eq, hclear]

/-- A reply says that the location changed exactly when it did, and then its request was a silent `cd`. -/
theorem reply_moved (it : Interpreter) (echo : String) (request : Request) :
    let r := it.reply echo request
    (r.evaluation.moved = true ↔ r.next.session.current ≠ it.session.current) ∧
      (r.evaluation.moved = true →
        request.name = "cd" ∧ r.evaluation.output = [] ∧ r.evaluation.clears = false) := by
  intro r
  obtain ⟨hn, he⟩ : r.next = _ ∧ r.evaluation = _ := reply_of_invoke rfl echo
  rw [hn, he]
  refine ⟨bne_iff_ne, ?_⟩
  intro hm
  obtain ⟨hcd, hl⟩ := (it.answers_invoke request).cd_of_moved (bne_iff_ne.1 hm)
  exact ⟨hcd, hl, by simp [hcd]⟩

theorem reply_clears (it : Interpreter) (echo : String) (request : Request) :
    (it.reply echo request).evaluation.clears = true ↔ request.name = "clear" := by
  rw [(reply_of_invoke rfl echo).2]
  exact beq_iff_eq

theorem length_reply_output_le (it : Interpreter) (echo : String) (request : Request) :
    (it.reply echo request).evaluation.output.length ≤ 1 := (it.answers_invoke request).length_lines_le

/-! ## Lines that leave no trace -/

/-- A line is reported to move exactly when the location is another one after it. -/
theorem moved_iff (it : Interpreter) (raw : String) :
    (it.evaluate raw).evaluation.moved = true ↔ (it.evaluate raw).next.session.current ≠ it.session.current := by
  rcases it.evaluate_cases raw with ⟨-, he⟩ | ⟨name, args, -, he, -⟩ <;> rw [he]
  · simp
  · obtain ⟨h, -⟩ := it.reply_moved (it.prompt ++ " " ++ trimmed raw) ⟨name, args⟩
    exact h

/-- The report of a move tells whether a line had any effect. -/
theorem moved_eq_false_iff (it : Interpreter) (raw : String) :
    (it.evaluate raw).evaluation.moved = false ↔ (it.evaluate raw).next = it := by
  obtain ⟨path, hn, -⟩ := it.evaluate_next raw
  rw [← Bool.not_eq_true, it.moved_iff raw, ne_eq, Classical.not_not]
  constructor
  · intro hc
    rw [hn] at hc ⊢
    have : path = it.session.current := hc
    rw [this]
    rfl
  · intro h
    rw [h]

/-- Only a line of `cd` is reported to move. -/
theorem not_moved_of_head? {it : Interpreter} {raw : String} (h : (tokens raw).head? ≠ some "cd") :
    (it.evaluate raw).evaluation.moved = false := by
  rcases it.evaluate_cases raw with ⟨-, he⟩ | ⟨name, args, ht, he, -⟩ <;> rw [he]
  rw [← Bool.not_eq_true]
  intro hm
  obtain ⟨rfl, -⟩ := (it.reply_moved _ _).2 hm
  simp [ht] at h

/-- A line that fails is not reported to move. -/
theorem not_moved_of_error {it : Interpreter} {raw name : String} {args : List String} {e : CommandError}
    (ht : tokens raw = name :: args) (h : (it.invoke ⟨name, args⟩).result = .error e) :
    (it.evaluate raw).evaluation.moved = false := by
  rw [evaluate_of_tokens ht, reply_of_error h]

theorem next_of_clears {it : Interpreter} {raw : String} (h : (it.evaluate raw).evaluation.clears = true) :
    (it.evaluate raw).next = it := by
  rw [← moved_eq_false_iff]
  rcases it.evaluate_cases raw with ⟨-, he⟩ | ⟨name, args, -, he, -⟩ <;> rw [he] at h ⊢
  rw [← Bool.not_eq_true]
  intro hm
  obtain ⟨-, -, hc⟩ := (it.reply_moved _ _).2 hm
  rw [h] at hc
  cases hc

/-! ## Main theorem -/

/-- The evaluation of any line in any state: what it echoes, when it says that it moved or cleared, what a
failure and a name outside the vocabulary come to, and that a blank line does nothing. -/
theorem evaluate_shape (it : Interpreter) (raw : String) :
    let r := it.evaluate raw
    r.evaluation.echo = it.prompt ++ " " ++ trimmed raw ∧
    (r.evaluation.moved = true ↔ r.next.session.current ≠ it.session.current) ∧
    (r.evaluation.moved = true →
      (tokens raw).head? = some "cd" ∧ r.evaluation.output = [] ∧ r.evaluation.clears = false) ∧
    (r.evaluation.clears = true ↔ (tokens raw).head? = some "clear") ∧
    (∀ name args e, tokens raw = name :: args → (it.invoke ⟨name, args⟩).result = .error e →
      r.evaluation.output = [e.message] ∧ r.next = it) ∧
    (∀ name args, tokens raw = name :: args → name ∉ ["ls", "cd", "cat", "pwd", "clear"] →
      r.evaluation.output = ["Command not allowed: " ++ name] ∧ r.evaluation.moved = false ∧
        r.evaluation.clears = false ∧ r.next = it) ∧
    (tokens raw = [] → r.evaluation.output = [] ∧ r.evaluation.moved = false ∧
      r.evaluation.clears = false ∧ r.next = it) ∧
    r.evaluation.output.length ≤ 1 := by
  intro r
  cases ht : tokens raw with
  | nil =>
    have hr : r = _ := evaluate_of_blank ht
    simp [hr]
  | cons name args =>
    have hr : r = _ := evaluate_of_tokens ht
    obtain ⟨hmoved, hcd⟩ := it.reply_moved (it.prompt ++ " " ++ trimmed raw) ⟨name, args⟩
    simp only [hr, List.head?_cons, Option.some.injEq]
    refine ⟨rfl, hmoved, hcd, reply_clears .., ?_, ?_, by simp, length_reply_output_le ..⟩
    · rintro _ _ e ⟨rfl, rfl⟩ he
      rw [reply_of_error he]
      exact ⟨rfl, rfl⟩
    · rintro _ _ ⟨rfl, rfl⟩ hn
      rw [reply_of_error (congrArg Ending.result (it.invoke_of_notMem hn args))]
      exact ⟨rfl, rfl, rfl, rfl⟩

/-- The recruit types a name outside the vocabulary. -/
theorem evaluate_shape_rm :
    let it : Interpreter := ⟨Bureau.tree, "recruit", "dcib", .opened (.ofTokens ["home", "recruit"])⟩
    tokens " rm  brief.txt" = ["rm", "brief.txt"] ∧
      (it.evaluate " rm  brief.txt").evaluation.output = ["Command not allowed: rm"] ∧
      (it.evaluate " rm  brief.txt").next = it := by
  intro it
  have ht : tokens " rm  brief.txt" = ["rm", "brief.txt"] := by decide +kernel
  obtain ⟨-, -, -, -, -, hrefused, -⟩ := evaluate_shape it " rm  brief.txt"
  obtain ⟨hout, -, -, hnext⟩ := hrefused "rm" ["brief.txt"] ht (by decide)
  exact ⟨ht, hout, hnext⟩

end TreeShell.Interpreter
