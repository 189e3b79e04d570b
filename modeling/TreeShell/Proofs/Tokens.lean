import TreeShell.Proofs.Targets
/-!
# What an evaluation reads of a line

A line is laid out as words between blanks (`Spaced`), in one way only, and its words are what is read off
(`words_eq_iff_spaced`). So each word is a run that cannot be made longer, the words joined by spaces are words again
(`tokens_join`), and two lines of the same words come to the same but for the echo (`evaluate_of_same_tokens`). Most
commands read only the first words (`evaluate_reads_tokens`).
-/

namespace TreeShell

namespace Text

/-- A line is laid out as words: blanks, a word, and what is left of the line, which cannot make the word longer. -/
inductive Spaced : List Char → List (List Char) → Prop
  | blanks {gap} (h : ∀ c ∈ gap, isBlank c = true) : Spaced gap []
  | word {gap w rest ws} (hgap : ∀ c ∈ gap, isBlank c = true) (hw : IsWord w)
    (hend : ∀ c ∈ rest.head?, isBlank c = true) (h : Spaced rest ws) : Spaced (gap ++ w ++ rest) (w :: ws)

theorem Spaced.blank_cons {c : Char} (hc : isBlank c = true) {cs : List Char} {ws : List (List Char)}
    (h : Spaced cs ws) : Spaced (c :: cs) ws := by
  cases h with
  | blanks h => exact .blanks (by simpa [hc] using h)
  | @word gap w rest ws hgap hw hend h =>
    have hgap' : ∀ d ∈ c :: gap, isBlank d = true := by simpa [hc] using hgap
    exact .word hgap' hw hend h

theorem Spaced.start {w rest : List Char} {ws : List (List Char)} (hw : IsWord w)
    (hend : ∀ c ∈ rest.head?, isBlank c = true) (h : Spaced rest ws) : Spaced (w ++ rest) (w :: ws) :=
  .word (List.forall_mem_nil _) hw hend h

/-- A character in front of a word belongs to it. -/
theorem Spaced.join_cons {c : Char} (hc : isBlank c = false) {cs : List Char} {ws : List (List Char)}
    (h : Spaced cs ws) : Spaced (c :: cs) (joinWord c (startsWord cs) ws) := by
  have hone : IsWord [c] := ⟨by simp, by simp [hc]⟩
  cases h with
  | blanks h =>
    refine .start hone ?_ (.blanks h)
    intro d hd
    exact h d (List.mem_of_mem_head? hd)
  | @word gap w rest ws hgap hw hend h =>
    cases gap with
    | nil =>
      -- Without a gap the word starts the line and takes the character in.
      have hstart : startsWord ([] ++ w ++ rest) = true := by
        obtain ⟨d, ds, rfl⟩ := List.exists_cons_of_ne_nil hw.1
        simpa [startsWord] using hw.2 d (by simp)
      have hcw : IsWord (c :: w) := ⟨by simp, by simpa [hc] using hw.2⟩
      rw [hstart]
      exact .start hcw hend h
    | cons b gap =>
      have hb : isBlank b = true := hgap b (by simp)
      have hstart : startsWord (b :: gap ++ w ++ rest) = false := by simp [startsWord, hb]
      rw [hstart]
      exact .start hone (by simpa using hb) (.word hgap hw hend h)

theorem spaced_words (cs : List Char) : Spaced cs (words cs) := by
  induction cs with
  | nil => exact .blanks (by simp)
  | cons c cs ih =>
    unfold words
    split
    · next hc => exact ih.blank_cons hc
    · next hc => exact ih.join_cons (by simpa using hc)

theorem words_append_of_head {w : List Char} (hw : IsWord w) {rest : List Char}
    (hend : ∀ c ∈ rest.head?, isBlank c = true) : words (w ++ rest) = w :: words rest := by
  cases rest with
  | nil => rw [List.append_nil, words_of_isWord hw, words]
  | cons b rest =>
    have hb : isBlank b = true := hend b (by simp)
    rw [words_append_blank hb, words_of_isWord hw, words, if_pos hb, List.singleton_append]

theorem Spaced.words_eq {cs : List Char} {ws : List (List Char)} (h : Spaced cs ws) : words cs = ws := by
  induction h with
  | blanks h => exact (words_eq_nil_iff _).2 h
  | word hgap hw hend _ ih => rw [List.append_assoc, words_blanks_append hgap, words_append_of_head hw hend, ih]

/-- A line is laid out as its words and in no other way. -/
theorem words_eq_iff_spaced (cs : List Char) (ws : List (List Char)) : words cs = ws ↔ Spaced cs ws :=
  ⟨fun h => h ▸ spaced_words cs, Spaced.words_eq⟩

/-- Each word stands where the words before it end and those behind it begin, between blanks or at an end. -/
theorem Spaced.exists_place {cs w : List Char} {before behind : List (List Char)}
    (h : Spaced cs (before ++ w :: behind)) :
    ∃ front back, cs = front ++ w ++ back ∧ (∀ c ∈ front.getLast?, isBlank c = true) ∧
      (∀ c ∈ back.head?, isBlank c = true) ∧ words front = before ∧ words back = behind := by
  induction before generalizing cs with
  | nil =>
    cases h with
    | @word gap w rest ws hgap hw hend h =>
      refine ⟨gap, rest, rfl, ?_, hend, (words_eq_nil_iff gap).2 hgap, h.words_eq⟩
      intro c hc
      exact hgap c (List.mem_of_mem_getLast? hc)
  | cons v before ih =>
    cases h with
    | @word gap v rest ws hgap hv hend h =>
      have hmem : w ∈ words rest := by simp [h.words_eq]
      have hw : IsWord w := isWord_of_mem_words hmem
      obtain ⟨front, back, rfl, hlast, hhead, hfront, hback⟩ := ih h
      -- Something stands between the two words, or the first would go on into the second.
      have hne : front ≠ [] := by
        rintro rfl
        obtain ⟨d, ds, rfl⟩ := List.exists_cons_of_ne_nil hw.1
        have hd : isBlank d = true := hend d (by simp)
        rw [hw.2 d (by simp)] at hd
        cases hd
      have hstart : ∀ c ∈ front.head?, isBlank c = true := by
        obtain ⟨d, ds, rfl⟩ := List.exists_cons_of_ne_nil hne
        simpa using hend
      refine ⟨gap ++ v ++ front, back, by simp, ?_, hhead, ?_, hback⟩
      · rw [List.getLast?_eq_some_getLast hne] at hlast
        simpa [List.getLast?_append, List.getLast?_eq_some_getLast hne] using hlast
      · rw [List.append_assoc, words_blanks_append hgap, words_append_of_head hv hstart, hfront]

/-- Words joined by single spaces are these words again. -/
theorem tokens_join {ts : List String} (h : ∀ t ∈ ts, IsWord t.toList) : tokens (join " " ts) = ts := by
  induction ts with
  | nil => rfl
  | cons t ts ih =>
    have ht := tokens_of_isWord (h t (by simp))
    have hts := ih fun u hu => h u (by simp [hu])
    cases ts with
    | nil => simpa [join] using ht
    | cons u ts =>
      have hj : join " " (t :: u :: ts) = t ++ " " ++ join " " (u :: ts) := String.intercalate_cons_cons ..
      rw [hj, tokens_append_space, ht, hts, List.singleton_append]

theorem trimmed_between_blanks {front back : String} (hf : ∀ c ∈ front.toList, isBlank c = true)
    (hb : ∀ c ∈ back.toList, isBlank c = true) (core : String) : trimmed (front ++ core ++ back) = trimmed core := by
  rw [trimmed, String.toList_append, String.toList_append, trim_append_blanks hb, trim,
    List.dropWhile_append_of_pos hf]
  rfl

end Text

open Text

/-- A reply with another echo and all else as it is. -/
def Reply.withEcho (r : Reply) (echo : String) : Reply := { r with evaluation := { r.evaluation with echo } }

namespace Interpreter

variable {it : Interpreter} {raw other : String}

/-! ## Lines that come to the same -/

/-- Requests of one name that end alike have the same reply but for the echo. -/
theorem reply_congr {name : String} {args others : List String} (h : it.invoke ⟨name, others⟩ = it.invoke ⟨name, args⟩)
    (echo echo' : String) : it.reply echo' ⟨name, others⟩ = (it.reply echo ⟨name, args⟩).withEcho echo' := by
  unfold reply
  rw [h]
  rfl

theorem evaluate_congr {name : String} {args others : List String} (ht : tokens raw = name :: args)
    (ho : tokens other = name :: others) (h : it.invoke ⟨name, others⟩ = it.invoke ⟨name, args⟩) :
    it.evaluate other = (it.evaluate raw).withEcho (it.prompt ++ " " ++ trimmed other) := by
  rw [evaluate_of_tokens ht, evaluate_of_tokens ho]
  exact reply_congr h ..

/-- Lines of the same words come to the same but for the echo. -/
theorem evaluate_of_same_tokens (h : tokens raw = tokens other) :
    it.evaluate other = (it.evaluate raw).withEcho (it.prompt ++ " " ++ trimmed other) := by
  cases ht : tokens other with
  | nil =>
    rw [evaluate_of_blank ht, evaluate_of_blank (h.trans ht)]
    rfl
  | cons name args => exact evaluate_congr (h.trans ht) ht rfl

/-- `cd` and `cat` read no more than a target. -/
theorem invoke_of_target {name : String} (h : name = "cd" ∨ name = "cat") (target : String) (args others : List String) :
    it.invoke ⟨name, target :: others⟩ = it.invoke ⟨name, target :: args⟩ := by
  rcases h with rfl | rfl
  · exact (it.invoke_name .cd _).trans (it.invoke_name .cd _).symm
  · exact (it.invoke_name .cat _).trans (it.invoke_name .cat _).symm

/-- `pwd` and `clear` read nothing. -/
theorem invoke_of_name {name : String} (h : name = "pwd" ∨ name = "clear") (args others : List String) :
    it.invoke ⟨name, others⟩ = it.invoke ⟨name, args⟩ := by
  rcases h with rfl | rfl
  · exact (it.invoke_name .pwd _).trans (it.invoke_name .pwd _).symm
  · exact (it.invoke_name .clear _).trans (it.invoke_name .clear _).symm

/-! ## Main theorem -/

/-- The words of a line are runs without blanks that cannot be made longer, each where the words before it end and
those behind it begin; a line has none exactly where all of it is blank, and joined by spaces they are the same words.
In every state lines of the same words come to the same reply but for its echo, and to the very same where they differ
only in the blanks around them. Behind the target of `cd` and `cat`, and behind `pwd` and `clear`, further words change
nothing but the echo. -/
theorem evaluate_reads_tokens :
    (∀ (line : String) (before : List String) (t : String) (behind : List String),
      tokens line = before ++ t :: behind →
        t ≠ "" ∧ (∀ c ∈ t.toList, isBlank c = false) ∧
        ∃ front back : String, line = front ++ t ++ back ∧ (∀ c ∈ front.toList.getLast?, isBlank c = true) ∧
          (∀ c ∈ back.toList.head?, isBlank c = true) ∧ tokens front = before ∧ tokens back = behind) ∧
    (∀ line name args, Request.ofLine line = some ⟨name, args⟩ ↔ tokens line = name :: args) ∧
    (∀ line, Request.ofLine line = none ↔ ∀ c ∈ line.toList, isBlank c = true) ∧
    (∀ line, tokens (join " " (tokens line)) = tokens line ∧
      Request.ofLine (join " " (tokens line)) = Request.ofLine line) ∧
    ∀ it : Interpreter,
      (∀ raw other, tokens raw = tokens other →
        it.evaluate other = (it.evaluate raw).withEcho (it.prompt ++ " " ++ trimmed other)) ∧
      (∀ front back front' back' core : String,
        (∀ c ∈ front.toList ++ back.toList ++ front'.toList ++ back'.toList, isBlank c = true) →
        it.evaluate (front ++ core ++ back) = it.evaluate (front' ++ core ++ back')) ∧
      (∀ name target args others raw other, name = "cd" ∨ name = "cat" →
        tokens raw = name :: target :: args → tokens other = name :: target :: others →
        it.evaluate other = (it.evaluate raw).withEcho (it.prompt ++ " " ++ trimmed other)) ∧
      ∀ name args others raw other, name = "pwd" ∨ name = "clear" →
        tokens raw = name :: args → tokens other = name :: others →
        it.evaluate other = (it.evaluate raw).withEcho (it.prompt ++ " " ++ trimmed other) := by
  refine ⟨?_, ?_, ?_, ?_, fun it => ⟨fun raw other h => evaluate_of_same_tokens h, ?_, ?_, ?_⟩⟩
  · intro line before t behind h
    have hmem : t ∈ tokens line := by simp [h]
    have hw : IsWord t.toList := isWord_of_mem_tokens hmem
    have hwords : words line.toList = before.map String.toList ++ t.toList :: behind.map String.toList := by
      have := congrArg (List.map String.toList) h
      simpa [tokens, Function.comp_def] using this
    obtain ⟨front, back, hline, hlast, hhead, hfront, hback⟩ :=
      ((words_eq_iff_spaced ..).1 hwords).exists_place
    refine ⟨ne_empty_of_isWord hw, hw.2, String.ofList front, String.ofList back, ?_, by simpa using hlast,
      by simpa using hhead, ?_, ?_⟩
    · exact String.toList_injective (by simp [hline])
    · simp [tokens, hfront, Function.comp_def]
    · simp [tokens, hback, Function.comp_def]
  · intro line name args
    rw [Request.ofLine_eq]
    cases tokens line <;> simp
  · intro line
    rw [← words_eq_nil_iff, Request.ofLine]
    cases words line.toList <;> simp
  · intro line
    have ht : tokens (join " " (tokens line)) = tokens line := tokens_join fun t => isWord_of_mem_tokens
    exact ⟨ht, by rw [Request.ofLine_eq, Request.ofLine_eq, ht]⟩
  · intro front back front' back' core h
    simp only [List.mem_append] at h
    apply evaluate_of_trimmed
    rw [trimmed_between_blanks (fun c hc => h c (by simp [hc])) fun c hc => h c (by simp [hc]),
      trimmed_between_blanks (fun c hc => h c (by simp [hc])) fun c hc => h c (by simp [hc])]
  · intro name target args others raw other hname ht ho
    exact evaluate_congr ht ho (invoke_of_target hname ..)
  · intro name args others raw other hname ht ho
    exact evaluate_congr ht ho (invoke_of_name hname ..)

/-- The recruit reads a file with blanks of other kinds between the words and with further words behind them. -/
theorem evaluate_reads_tokens_brief :
    let it : Interpreter := ⟨Bureau.tree, "recruit", "dcib", .opened (.ofTokens ["home", "recruit"])⟩
    tokens "\u3000cat\tbrief.txt\u00a0-n " = ["cat", "brief.txt", "-n"] ∧
      (it.evaluate "\u3000cat\tbrief.txt\u00a0-n ").evaluation.output = (it.evaluate "cat brief.txt").evaluation.output ∧
      it.evaluate (" " ++ "pwd" ++ "\r\n") = it.evaluate ("" ++ "pwd" ++ "") := by
  intro it
  have ht : tokens "\u3000cat\tbrief.txt\u00a0-n " = ["cat", "brief.txt", "-n"] := by decide +kernel
  have ho : tokens "cat brief.txt" = ["cat", "brief.txt"] := by decide +kernel
  obtain ⟨-, -, -, -, heval⟩ := evaluate_reads_tokens
  obtain ⟨-, htrim, htarget, -⟩ := heval it
  refine ⟨ht, ?_, htrim " " "\r\n" "" "" "pwd" (List.all_eq_true.1 (by decide))⟩
  rw [htarget "cat" "brief.txt" [] ["-n"] _ _ (.inr rfl) ho ht]
  rfl

end Interpreter

end TreeShell
