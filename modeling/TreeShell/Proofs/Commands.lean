import TreeShell.Interpreter
import TreeShell.Proofs.Words
/-!
# What a line comes to

`Answers` lists every way in which a request can end, together with what has to hold for it; `invoke`
does exactly that (`answers_invoke`). Command by command, a failure leaves the session as it is
(`session_invoke_of_error`). With `evaluate_of_tokens` and `evaluate_of_blank`, a proof about a line is a
case analysis over that list.
-/

namespace TreeShell.Interpreter

open Text

/-- Every way in which a request can end. -/
inductive Answers (it : Interpreter) : Request → Ending → Prop
  /-- The name is no command. -/
  | disallowed {name args} (h : ∀ command : Command, command.name ≠ name) :
    Answers it ⟨name, args⟩ ⟨it.session, .error (.disallowed name)⟩
  /-- The first argument of `ls` that is not `-a`. -/
  | badOption {args option} (h : args.find? (fun arg => arg != "-a") = some option) :
    Answers it ⟨"ls", args⟩ ⟨it.session, .error (.unsupportedOption .ls option)⟩
  | listed {args dir} (h : ∀ arg ∈ args, arg = "-a") (hd : it.tree.directory it.session.current = .ok dir) :
    Answers it ⟨"ls", args⟩
      ⟨it.session, .ok { lines := [join "  " (if args.isEmpty then dir.visibleNames else dir.names)] }⟩
  /-- The session does not stand at a directory. -/
  | misplaced {args e} (h : ∀ arg ∈ args, arg = "-a") (hd : it.tree.directory it.session.current = .error e) :
    Answers it ⟨"ls", args⟩ ⟨it.session, .ok { lines := [""], events := [.misplaced e] }⟩
  | wentHome {args} (h : args.head? = none ∨ args.head? = some "" ∨ args.head? = some "~") :
    Answers it ⟨"cd", args⟩ ⟨it.session.reset, .ok { lines := [] }⟩
  | entered {target args entries} (hs : target ≠ "" ∧ target ≠ "~")
    (h : it.tree.lookup (it.resolve target) = .ok (.directory entries)) :
    Answers it ⟨"cd", target :: args⟩ ⟨it.session.moveTo (it.resolve target), .ok { lines := [] }⟩
  | notDirectory {target args content} (hs : target ≠ "" ∧ target ≠ "~")
    (h : it.tree.lookup (it.resolve target) = .ok (.file content)) :
    Answers it ⟨"cd", target :: args⟩ ⟨it.session, .error (.notADirectory target)⟩
  | noPath {target args e} (hs : target ≠ "" ∧ target ≠ "~")
    (h : it.tree.lookup (it.resolve target) = .error e) :
    Answers it ⟨"cd", target :: args⟩ ⟨it.session, .error (.pathNotFound target)⟩
  | noOperand : Answers it ⟨"cat", []⟩ ⟨it.session, .error (.missingOperand .cat)⟩
  | shown {target args content} (h : it.tree.lookup (it.resolve target) = .ok (.file content)) :
    Answers it ⟨"cat", target :: args⟩ ⟨it.session, .ok { lines := [content] }⟩
  | notFile {target args entries} (h : it.tree.lookup (it.resolve target) = .ok (.directory entries)) :
    Answers it ⟨"cat", target :: args⟩ ⟨it.session, .error (.notAFile target)⟩
  | noFile {target args e} (h : it.tree.lookup (it.resolve target) = .error e) :
    Answers it ⟨"cat", target :: args⟩ ⟨it.session, .error (.fileNotFound target)⟩
  | located {args} : Answers it ⟨"pwd", args⟩ ⟨it.session, .ok { lines := [it.session.current.text] }⟩
  | cleared {args} : Answers it ⟨"clear", args⟩ ⟨it.session, .ok { lines := [] }⟩

/-! ## The commands -/

theorem answers_ls (it : Interpreter) (args : List String) : it.Answers ⟨"ls", args⟩ (it.ls args) := by
  unfold ls
  split
  · next option h => exact .badOption h
  · next h =>
    have hall : ∀ arg ∈ args, arg = "-a" := by simpa using h
    split
    · next dir hd => exact .listed hall hd
    · next e hd => exact .misplaced hall hd

theorem answers_cd (it : Interpreter) (args : List String) : it.Answers ⟨"cd", args⟩ (it.cd args.head?) := by
  unfold cd
  split
  · next h => exact .wentHome (.inl h)
  · next h => exact .wentHome (.inr (.inl h))
  · next h => exact .wentHome (.inr (.inr h))
  · next target hempty htilde h =>
    obtain ⟨rest, rfl⟩ := List.head?_eq_some_iff.1 h
    have hs : target ≠ "" ∧ target ≠ "~" := ⟨hempty, htilde⟩
    dsimp only
    split
    · next entries hl => exact .entered hs hl
    · next content hl => exact .notDirectory hs hl
    · next e hl => exact .noPath hs hl

theorem answers_cat (it : Interpreter) (args : List String) : it.Answers ⟨"cat", args⟩ (it.cat args.head?) := by
  cases args with
  | nil => exact .noOperand
  | cons target rest =>
    simp only [List.head?_cons, cat]
    split
    · next content hl => exact .shown hl
    · next entries hl => exact .notFile hl
    · next e hl => exact .noFile hl

theorem ofName_eq_error {name : String} {e : CommandError} (h : Command.ofName name = .error e) :
    e = .disallowed name ∧ ∀ command : Command, command.name ≠ name := by
  unfold Command.ofName at h
  split at h
  · cases h
  · next hn =>
    cases h
    refine ⟨rfl, ?_⟩
    intro command hc
    have := List.find?_eq_none.1 hn command (by cases command <;> simp [Command.all])
    simp [hc] at this

/-- A request ends in one of the listed ways. -/
theorem answers_invoke (it : Interpreter) (request : Request) : it.Answers request (it.invoke request) := by
  obtain ⟨name, args⟩ := request
  unfold invoke
  cases hc : Command.ofName name with
  | error e =>
    obtain ⟨rfl, hn⟩ := ofName_eq_error hc
    exact .disallowed hn
  | ok command =>
    obtain rfl := Command.name_of_ofName hc
    cases command with
    | ls => exact answers_ls it args
    | cd => exact answers_cd it args
    | cat => exact answers_cat it args
    | pwd => exact .located
    | clear => exact .cleared

/-! ## The session afterwards -/

section Sessions

variable {it : Interpreter} {request : Request} {ending : Ending} {e : CommandError}

theorem Answers.session_of_ne_cd (h : it.Answers request ending) (hne : request.name ≠ "cd") :
    ending.session = it.session := by
  cases h with
  | wentHome | entered | notDirectory | noPath => exact absurd rfl hne
  | _ => rfl

/-- `cd` moves in two ways, and neither of them is a failure. -/
theorem Answers.session_of_error (h : it.Answers request ending) (he : ending.result = .error e) :
    ending.session = it.session := by
  cases h with
  | wentHome | entered => cases he
  | _ => rfl

theorem session_ls (it : Interpreter) (args : List String) : (it.ls args).session = it.session :=
  (it.answers_ls args).session_of_ne_cd (by simp)

theorem session_cat (it : Interpreter) (target : Option String) : (it.cat target).session = it.session := by
  have h := (it.answers_cat target.toList).session_of_ne_cd (by simp)
  rwa [Option.head?_toList] at h

theorem session_cd_of_error {target : Option String} (he : (it.cd target).result = .error e) :
    (it.cd target).session = it.session := by
  have h := it.answers_cd target.toList
  rw [Option.head?_toList] at h
  exact h.session_of_error he

/-- A request that fails leaves the session as it is. -/
theorem session_invoke_of_error (he : (it.invoke request).result = .error e) :
    (it.invoke request).session = it.session := (it.answers_invoke request).session_of_error he

end Sessions

/-! ## Lines -/

theorem evaluate_of_tokens {it : Interpreter} {raw name : String} {args : List String}
    (h : tokens raw = name :: args) :
    it.evaluate raw = it.reply (it.prompt ++ " " ++ trimmed raw) ⟨name, args⟩ := by
  have hr : Request.ofLine (trimmed raw) = some ⟨name, args⟩ := by rw [Request.ofLine_eq, tokens_trimmed, h]
  simp only [evaluate, hr]

theorem evaluate_of_blank {it : Interpreter} {raw : String} (h : tokens raw = []) :
    it.evaluate raw = ⟨⟨it.prompt ++ " " ++ trimmed raw, [], false, false⟩, [], it⟩ := by
  have hr : Request.ofLine (trimmed raw) = none := by rw [Request.ofLine_eq, tokens_trimmed, h]
  simp only [evaluate, hr]

/-- The blanks around a line do not count. -/
theorem evaluate_of_trimmed {a b : String} (h : trimmed a = trimmed b) (it : Interpreter) :
    it.evaluate a = it.evaluate b := by
  simp only [evaluate, h]

/-- What a line with a first word comes to, by how its request ends. -/
theorem evaluate_cases (it : Interpreter) (raw : String) :
    (tokens raw = [] ∧ it.evaluate raw = ⟨⟨it.prompt ++ " " ++ trimmed raw, [], false, false⟩, [], it⟩) ∨
    ∃ name args, tokens raw = name :: args ∧
      it.evaluate raw = it.reply (it.prompt ++ " " ++ trimmed raw) ⟨name, args⟩ ∧
      it.Answers ⟨name, args⟩ (it.invoke ⟨name, args⟩) := by
  cases h : tokens raw with
  | nil => exact .inl ⟨rfl, evaluate_of_blank h⟩
  | cons name args => exact .inr ⟨name, args, rfl, evaluate_of_tokens h, answers_invoke it _⟩

end TreeShell.Interpreter
