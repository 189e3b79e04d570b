import TreeShell.Proofs.Evaluation
import TreeShell.Proofs.Runs
/-!
# What `cd` and `cat` do with a target

Both resolve the first word behind the command and look it up. A session whose home is a directory does
the same for `~`, which `cd` treats on its own (`Placed.cd_some`). `evaluate_cd` and `evaluate_cat` say
what a line comes to, whatever stands behind its target.
-/

namespace TreeShell.Interpreter

open Text

theorem invoke_name (it : Interpreter) (command : Command) (args : List String) :
    it.invoke ⟨command.name, args⟩ = it.dispatch command args := by
  simp [invoke, Command.ofName_name]

/-- A lone tilde stands for home, which is a directory. -/
theorem Placed.lookup_tilde {it : Interpreter} (hp : it.Placed) :
    it.resolve "~" = it.session.home ∧
      ∃ entries, it.tree.lookup it.session.home = .ok (.directory entries) :=
  ⟨Path.resolve_tilde .., (Tree.isDirectory_iff ..).1 hp.home⟩

/-- `cd` with a target looks it up, also for `~`. -/
theorem Placed.cd_some {it : Interpreter} (hp : it.Placed) {target : String} (hne : target ≠ "") :
    it.cd (some target) =
      match it.tree.lookup (it.resolve target) with
      | .ok (.directory _) => ⟨it.session.moveTo (it.resolve target), .ok { lines := [] }⟩
      | .ok (.file _) => ⟨it.session, .error (.notADirectory target)⟩
      | .error _ => ⟨it.session, .error (.pathNotFound target)⟩ := by
  by_cases htilde : target = "~"
  · subst htilde
    -- Going home skips the look-up, which would have found home.
    obtain ⟨hr, entries, hl⟩ := hp.lookup_tilde
    simp [Interpreter.cd, hr, hl, Session.reset]
  · unfold Interpreter.cd
    split
    · next h => cases h
    · next h => exact absurd (Option.some.inj h) hne
    · next h => exact absurd (Option.some.inj h) htilde
    · next h =>
      cases h
      rfl

/-- A line with a target for `cd` moves there if it is a directory, and answers one line if not. -/
theorem evaluate_cd {it : Interpreter} (hp : it.Placed) {raw target : String} {rest : List String}
    (ht : tokens raw = "cd" :: target :: rest) :
    (it.evaluate raw).next.session.current =
        (match it.tree.lookup (it.resolve target) with
        | .ok (.directory _) => it.resolve target
        | _ => it.session.current) ∧
      (it.evaluate raw).evaluation.output =
        match it.tree.lookup (it.resolve target) with
        | .ok (.directory _) => []
        | _ => ["cd: no such directory: " ++ target] := by
  have hm : target ∈ tokens raw := by simp [ht]
  have hne : target ≠ "" := ne_empty_of_isWord (isWord_of_mem_tokens hm)
  have hi : it.invoke ⟨"cd", target :: rest⟩ = it.cd (some target) := it.invoke_name .cd (target :: rest)
  obtain ⟨hn, he⟩ := reply_of_invoke (hi.trans (hp.cd_some hne)) (it.prompt ++ " " ++ trimmed raw)
  rw [evaluate_of_tokens ht, hn, he]
  cases it.tree.lookup (it.resolve target) with
  | error e => exact ⟨rfl, rfl⟩
  | ok node => cases node <;> exact ⟨rfl, rfl⟩

/-- A line with a target for `cat` shows the file there, or answers one line. It never moves. -/
theorem evaluate_cat (it : Interpreter) {raw target : String} {rest : List String}
    (ht : tokens raw = "cat" :: target :: rest) :
    (it.evaluate raw).next = it ∧
      (it.evaluate raw).evaluation.output =
        match it.tree.lookup (it.resolve target) with
        | .ok (.file content) => [content]
        | _ => ["cat: " ++ target ++ ": No such file"] := by
  have hi : it.invoke ⟨"cat", target :: rest⟩ = it.cat (some target) := it.invoke_name .cat (target :: rest)
  obtain ⟨hn, he⟩ := reply_of_invoke hi (it.prompt ++ " " ++ trimmed raw)
  rw [evaluate_of_tokens ht, hn, he]
  unfold cat
  dsimp only
  cases it.tree.lookup (it.resolve target) with
  | error e => exact ⟨rfl, rfl⟩
  | ok node => cases node <;> exact ⟨rfl, rfl⟩

/-! ## Lines of a command and one word -/

theorem tokens_verb (verb : String) {target : String} (hv : IsWord verb.toList) (ht : IsWord target.toList) :
    tokens (verb ++ " " ++ target) = [verb, target] := by
  rw [tokens_append_space, tokens_of_isWord hv, tokens_of_isWord ht]
  rfl

theorem tokens_cd {target : String} (ht : IsWord target.toList) :
    tokens ("cd " ++ target) = ["cd", target] := by
  have hv : IsWord ['c', 'd'] := ⟨by simp, by simp [isBlank, inRanges, blankRanges]⟩
  exact tokens_verb "cd" hv ht

theorem tokens_cat {target : String} (ht : IsWord target.toList) :
    tokens ("cat " ++ target) = ["cat", target] := by
  have hv : IsWord ['c', 'a', 't'] := ⟨by simp, by simp [isBlank, inRanges, blankRanges]⟩
  exact tokens_verb "cat" hv ht

end TreeShell.Interpreter
