import TreeShell.Proofs.Evaluation
import TreeShell.Proofs.Streams
/-!
# Batches

A batch takes its lines from a script, from its input or from its own arguments (`Given`), and has all of them
before it evaluates the first. So it either fails without a trace or evaluates every line, in order
(`batch_all_or_nothing`). Where the lines come from makes no difference (`line_sources_agree`): a script is
decoded as a whole and an input line by line, which is the same (`batchLines_of_script`), and a terminator that
a line keeps or loses is blank (`execute_of_trimmed`).
-/

namespace TreeShell

open Text

/-- An evaluation in a transcript, under a prompt. One that clears shows the startup screen. -/
def Evaluation.written (e : Evaluation) (prompt : String) : String :=
  if e.clears then Console.writeLines (Banner.lines ++ [prompt]) else Console.writeLines (e.echo :: e.output)

/-! ## Commands that were carried out -/

/-- The command whose outcome an event reports. -/
def Event.command? : Event → Option String
  | succeeded command _ => some command
  | failed command _ => some command
  | _ => none

namespace Interpreter

theorem Answers.commands_eq {it : Interpreter} {request : Request} {ending : Ending} (h : it.Answers request ending) :
    (ending.events request.name).filterMap Event.command? = [request.name] := by
  cases h <;> rfl

theorem commands_reply (it : Interpreter) (echo : String) (request : Request) :
    (it.reply echo request).events.filterMap Event.command? = [request.name] := by
  unfold reply
  simp only [List.filterMap_append, (it.answers_invoke request).commands_eq]
  split <;> rfl

/-- A line reports its first word as a command, once. -/
theorem commands_evaluate (it : Interpreter) (raw : String) :
    (it.evaluate raw).events.filterMap Event.command? = (tokens raw).head?.toList := by
  rcases it.evaluate_cases raw with ⟨ht, he⟩ | ⟨name, args, ht, he, -⟩ <;> rw [he, ht]
  · rfl
  · exact it.commands_reply _ _

/-- Lines report their first words in order. -/
theorem commands_evaluateAll (it : Interpreter) (lines : List String) :
    (it.evaluateAll lines).2.1.filterMap Event.command? = lines.filterMap fun line => (tokens line).head? := by
  induction lines generalizing it with
  | nil => rfl
  | cons line rest ih =>
    rw [evaluateAll_cons, List.filterMap_append, commands_evaluate, ih, List.filterMap_cons]
    cases (tokens line).head? <;> rfl

/-- A line that clears leaves the prompt as it was. -/
theorem render_evaluate (it : Interpreter) (raw : String) :
    Terminal.batchConsole.render (it.evaluate raw).evaluation (it.evaluate raw).next =
      (it.evaluate raw).evaluation.written it.prompt := by
  cases hc : (it.evaluate raw).evaluation.clears with
  | false => simp [Console.render, Terminal.batchConsole, Evaluation.written, Evaluation.transcript, hc]
  | true =>
    have hn : (it.evaluate raw).next = it := it.next_of_clears hc
    simp [Console.render, Console.startup, Terminal.batchConsole, Evaluation.written, startupLines, hc, hn]

theorem dialogue_getElem? (it : Interpreter) (lines : List String) (n : Nat) :
    (it.dialogue lines)[n]? =
      lines[n]?.map fun line => (it.after (lines.take n), ((it.after (lines.take n)).evaluate line).evaluation) := by
  induction lines generalizing it n with
  | nil => simp [dialogue]
  | cons line rest ih =>
    cases n with
    | zero => rfl
    | succ n => simp [dialogue, ih]

end Interpreter

/-! ## Where lines come from -/

/-- The lines of a batch. A script counts before lines of its own, and these before the input. -/
inductive Batch.Given (b : Batch) (d : Disk) (input : Bytes) : List String → Prop
  | script {path : String} {place : Disk.Place} {content : Bytes} {texts : List String} (hs : b.script = some path)
    (hf : d.locate path = .ok (.file place content)) (ht : Text.lines content = texts.map Utf8.encodeString) :
    b.Given d input (texts.map withoutTerminator)
  | input {texts : List String} (hs : b.script = none) (hl : b.lines = [])
    (ht : Text.lines input = texts.map Utf8.encodeString) : b.Given d input (texts.map withoutTerminator)
  | own (hs : b.script = none) (hl : b.lines ≠ []) : b.Given d input b.lines

/-- The script does not lead to a file in UTF-8, or the input is needed and is not UTF-8. -/
def Batch.Unreadable (b : Batch) (d : Disk) (input : Bytes) : Prop :=
  (∃ path, b.script = some path ∧
    ∀ place content, d.locate path = .ok (.file place content) → ¬content.toByteArray.IsValidUTF8) ∨
  (b.script = none ∧ b.lines = [] ∧ ¬input.toByteArray.IsValidUTF8)

theorem Disk.read_eq_ok_iff (d : Disk) (path : String) (content : Bytes) :
    d.read path = .ok content ↔ ∃ place, d.locate path = .ok (.file place content) := by
  unfold read
  split <;> simp_all

namespace Terminal

/-- The lines of a script or an input with this content. -/
def contentLines (content : Bytes) : Except Error (List String) :=
  match textLines content with
  | some lines => .ok lines
  | none => .error (.io .notUtf8)

theorem contentLines_of_valid {content : Bytes} (h : content.toByteArray.IsValidUTF8) :
    ∃ texts : List String, lines content = texts.map Utf8.encodeString ∧
      contentLines content = .ok (texts.map withoutTerminator) := by
  obtain ⟨texts, hl, ht⟩ := exists_texts_of_valid h
  exact ⟨texts, hl, by rw [contentLines, ht]⟩

theorem contentLines_of_not_valid {content : Bytes} (h : ¬content.toByteArray.IsValidUTF8) :
    contentLines content = .error (.io .notUtf8) := by
  rw [contentLines, textLines_eq_none h]

section Sources

variable {b : Batch} {d : Disk} {input : Bytes}

/-- A script is decoded as a whole, which comes to the same as line by line. -/
theorem batchLines_of_script {path : String} {content : Bytes} (hs : b.script = some path)
    (hr : d.read path = .ok content) : batchLines b d input = contentLines content := by
  unfold batchLines
  simp only [hs, Disk.readText, hr]
  cases h : Utf8.decodeString content with
  | none => rw [contentLines_of_not_valid (Utf8.decodeString_eq_none_iff.1 h)]
  | some text =>
    rw [Utf8.decodeString_eq_some_iff.1 h]
    rfl

theorem batchLines_of_unread {path : String} {e : Disk.Error} (hs : b.script = some path)
    (hr : d.read path = .error e) : batchLines b d input = .error (.io e) := by
  simp [batchLines, hs, Disk.readText, hr]

theorem batchLines_of_input (hs : b.script = none) (hl : b.lines = []) :
    batchLines b d input = contentLines input := by
  simp only [batchLines, hs, hl, List.isEmpty_nil, if_true]
  rfl

theorem batchLines_of_own (hs : b.script = none) (hl : b.lines ≠ []) : batchLines b d input = .ok b.lines := by
  simp [batchLines, hs, hl]

end Sources

/-- A batch has all its lines or none. -/
theorem batchLines_cases (b : Batch) (d : Disk) (input : Bytes) :
    (∃ lines, batchLines b d input = .ok lines ∧ b.Given d input lines ∧ ¬b.Unreadable d input) ∨
      ∃ e, batchLines b d input = .error e ∧ b.Unreadable d input := by
  cases hs : b.script with
  | some path =>
    cases hr : d.read path with
    | error e =>
      refine .inr ⟨_, batchLines_of_unread hs hr, .inl ⟨path, hs, ?_⟩⟩
      intro place content hf
      rw [(d.read_eq_ok_iff ..).2 ⟨place, hf⟩] at hr
      cases hr
    | ok content =>
      obtain ⟨place, hf⟩ := (d.read_eq_ok_iff ..).1 hr
      have hb : batchLines b d input = _ := batchLines_of_script hs hr
      by_cases hv : content.toByteArray.IsValidUTF8
      · obtain ⟨texts, hl, hc⟩ := contentLines_of_valid hv
        refine .inl ⟨_, hb.trans hc, .script hs hf hl, ?_⟩
        simp [Batch.Unreadable, hs, hf, hv]
      · refine .inr ⟨_, hb.trans (contentLines_of_not_valid hv), .inl ⟨path, hs, ?_⟩⟩
        simp [hf, hv]
  | none =>
    by_cases hl : b.lines = []
    · have hb : batchLines b d input = _ := batchLines_of_input hs hl
      by_cases hv : input.toByteArray.IsValidUTF8
      · obtain ⟨texts, ht, hc⟩ := contentLines_of_valid hv
        refine .inl ⟨_, hb.trans hc, .input hs hl ht, ?_⟩
        simp [Batch.Unreadable, hs, hv]
      · exact .inr ⟨_, hb.trans (contentLines_of_not_valid hv), .inr ⟨hs, hl, hv⟩⟩
    · refine .inl ⟨_, batchLines_of_own hs hl, .own hs hl, ?_⟩
      simp [Batch.Unreadable, hs, hl]

/-! ## What is written -/

/-- What a batch writes for the states before its lines and their evaluations. -/
def BatchFormat.shown (seen : List (Interpreter × Evaluation)) : BatchFormat → String
  | .text => String.join (seen.map fun (before, e) => e.written before.prompt)
  | .json => Json.pretty (.list (seen.map fun (_, e) => evaluationRecord e)) ++ "\n"

theorem transcript_eq (it : Interpreter) (lines : List String) :
    transcript it lines = BatchFormat.text.shown (it.dialogue lines) := by
  induction lines generalizing it with
  | nil => rfl
  | cons line rest ih =>
    have hw : batchConsole.render (it.evaluate line).evaluation (it.evaluate line).next =
        (it.evaluate line).evaluation.written it.prompt := it.render_evaluate line
    simp only [transcript, hw, ih, BatchFormat.shown, Interpreter.dialogue, List.map_cons, String.join_cons]

theorem batchOutput_eq (it : Interpreter) (lines : List String) (format : BatchFormat) :
    batchOutput it lines format = format.shown (it.dialogue lines) := by
  cases format with
  | text => exact transcript_eq it lines
  | json =>
    rw [batchOutput, ← it.dialogue_evaluations lines, List.map_map]
    rfl

/-! ## Carrying out -/

theorem ofName_eq_ok_iff (name : String) (format : BatchFormat) :
    BatchFormat.ofName name = .ok format ↔
      name = "text" ∧ format = .text ∨ name = "json" ∧ format = .json := by
  unfold BatchFormat.ofName
  split <;> simp_all [eq_comm]

theorem ofName_eq_error {name : String} {e : Error} (h : BatchFormat.ofName name = .error e) :
    name ≠ "text" ∧ name ≠ "json" := by
  constructor <;> rintro rfl <;> cases h

section Execution

variable {t : Terminal} {b : Batch} {d : Disk} {input : Bytes}

theorem execute_of_lines {lines : List String} {format : BatchFormat} (hb : batchLines b d input = .ok lines)
    (hf : BatchFormat.ofName b.format = .ok format) :
    t.execute (.exec b) d input =
      { output := format.shown (t.interpreter.dialogue lines)
        events := (t.interpreter.evaluateAll lines).2.1
        terminal := { t with interpreter := t.interpreter.after lines } } := by
  simp only [execute, exec, hb, hf, batchOutput_eq]
  rfl

theorem execute_of_unread {e : Error} (hb : batchLines b d input = .error e) :
    t.execute (.exec b) d input = { terminal := t, error := some e } := by
  simp only [execute, exec, hb]

theorem execute_of_badFormat {lines : List String} {e : Error} (hb : batchLines b d input = .ok lines)
    (hf : BatchFormat.ofName b.format = .error e) :
    t.execute (.exec b) d input = { terminal := t, error := some e } := by
  simp only [execute, exec, hb, hf]

/-- Only the lines and the format count. -/
theorem execute_of_same {b' : Batch} {d' : Disk} {input' : Bytes}
    (hb : batchLines b d input = batchLines b' d' input') (hf : b.format = b'.format) :
    t.execute (.exec b) d input = t.execute (.exec b') d' input' := by
  simp only [execute, exec, hb, hf]

/-- Blanks around the lines do not count. -/
theorem execute_of_trimmed {b' : Batch} {d' : Disk} {input' : Bytes} {lines : List String} {f : String → String}
    (h : ∀ line, trimmed (f line) = trimmed line) (hb : batchLines b d input = .ok lines)
    (hb' : batchLines b' d' input' = .ok (lines.map f)) (hf : b.format = b'.format) :
    t.execute (.exec b) d input = t.execute (.exec b') d' input' := by
  simp only [execute, exec, hb, hb', hf]
  cases BatchFormat.ofName b'.format with
  | error e => rfl
  | ok format =>
    simp only [Interpreter.evaluateAll_map_of_trimmed h, Interpreter.batchOutput_map_of_trimmed h]

end Execution

/-! ## Main theorems -/

/-- A batch fails exactly where its script is no file in UTF-8, or it needs the input and that is not UTF-8, or
its format is neither of the two. Then it has written and reported nothing, and the terminal stands where it
stood. Otherwise it has evaluated all the lines it was given, in order: each in the state that the lines before
it lead to, each with one report of its command, if it has one, and each shown once. -/
theorem batch_all_or_nothing (t : Terminal) (b : Batch) (d : Disk) (input : Bytes) :
    let o := t.execute (.exec b) d input
    (o.error ≠ none ↔
      (∃ path, b.script = some path ∧
        ∀ place content, d.locate path = .ok (.file place content) → ¬content.toByteArray.IsValidUTF8) ∨
      (b.script = none ∧ b.lines = [] ∧ ¬input.toByteArray.IsValidUTF8) ∨
      (b.format ≠ "text" ∧ b.format ≠ "json")) ∧
    (o.error ≠ none → o.terminal = t ∧ o.output = "" ∧ o.events = []) ∧
    (o.error = none → ∃ lines format, b.Given d input lines ∧ BatchFormat.ofName b.format = .ok format ∧
      o.terminal = { t with interpreter := t.interpreter.after lines } ∧
      o.output = format.shown (t.interpreter.dialogue lines) ∧
      (∀ n, (t.interpreter.dialogue lines)[n]? = lines[n]?.map fun line =>
        let before := t.interpreter.after (lines.take n)
        (before, (before.evaluate line).evaluation)) ∧
      o.events.filterMap Event.command? = lines.filterMap fun line => (tokens line).head?) := by
  intro o
  rw [← or_assoc]
  change (o.error ≠ none ↔ b.Unreadable d input ∨ _) ∧ _
  rcases batchLines_cases b d input with ⟨lines, hb, hgiven, hread⟩ | ⟨e, hb, hunread⟩
  · cases hf : BatchFormat.ofName b.format with
    | error e =>
      have ho : o = _ := execute_of_badFormat hb hf
      have hname : b.format ≠ "text" ∧ b.format ≠ "json" := ofName_eq_error hf
      simp [ho, hname]
    | ok format =>
      have ho : o = _ := execute_of_lines hb hf
      have hname : ¬(b.format ≠ "text" ∧ b.format ≠ "json") := by
        rcases (ofName_eq_ok_iff ..).1 hf with ⟨h, -⟩ | ⟨h, -⟩ <;> simp [h]
      rw [ho]
      refine ⟨by simp [hread, hname], by simp, fun _ => ?_⟩
      exact ⟨lines, format, hgiven, rfl, rfl, rfl, t.interpreter.dialogue_getElem? lines,
        t.interpreter.commands_evaluateAll lines⟩
  · have ho : o = _ := execute_of_unread hb
    simp [ho, hunread]

/-- The input has a fault behind a line that would have moved the recruit. It does no harm to a batch with lines
of its own. -/
theorem batch_all_or_nothing_late_fault :
    let t : Terminal := ⟨⟨Bureau.tree, "recruit", "dcib", .opened (.ofTokens ["home", "recruit"])⟩, true⟩
    let input := Utf8.encodeString "cd secure\n" ++ [0xff]
    ∀ d : Disk,
      let failed := t.execute (.exec {}) d input
      let done := t.execute (.exec { lines := ["cd secure"] }) d input
      failed.error ≠ none ∧ failed.terminal = t ∧ failed.output = "" ∧
        done.error = none ∧ done.terminal.interpreter = t.interpreter.after ["cd secure"] := by
  intro t input d failed done
  have hfault : ¬input.toByteArray.IsValidUTF8 := Utf8.decodeString_eq_none_iff.1 (by decide +kernel)
  obtain ⟨hiff, hnothing, -⟩ := batch_all_or_nothing t {} d input
  have hfailed : failed.error ≠ none := hiff.2 (.inr (.inl ⟨rfl, rfl, hfault⟩))
  obtain ⟨hterminal, houtput, -⟩ := hnothing hfailed
  obtain ⟨hiff, -, hall⟩ := batch_all_or_nothing t { lines := ["cd secure"] } d input
  have hdone : done.error = none := Classical.byContradiction fun hne => by simpa using hiff.1 hne
  obtain ⟨lines, format, hgiven, -, hlast, -⟩ := hall hdone
  refine ⟨hfailed, hterminal, houtput, hdone, ?_⟩
  cases hgiven with
  | script hs => cases hs
  | input _ hl => cases hl
  | own => rw [hlast]

/-- A script and an input with the same bytes come to the same, also where they fail. A batch's own lines come to
what a script comes to that has each of them, and a newline behind it. -/
theorem line_sources_agree (t : Terminal) (d : Disk) (path format : String) (content : Bytes)
    (h : d.read path = .ok content) :
    (∀ (others : List String) (d' : Disk) (input : Bytes),
      t.execute (.exec { lines := others, script := some path, format }) d input =
        t.execute (.exec { format }) d' content) ∧
    ∀ own : List String, own ≠ [] → (∀ line ∈ own, '\n' ∉ line.toList) →
      content = (own.flatMap fun line => Utf8.encodeString line ++ [newline]) →
      ∀ (others : List String) (d' : Disk) (input input' : Bytes),
        t.execute (.exec { lines := own, format }) d' input' =
          t.execute (.exec { lines := others, script := some path, format }) d input := by
  have hscript (others : List String) (input : Bytes) :
      batchLines { lines := others, script := some path, format } d input = contentLines content :=
    batchLines_of_script rfl h
  constructor
  · intro others d' input
    have hinput : batchLines { format } d' content = contentLines content := batchLines_of_input rfl rfl
    exact execute_of_same ((hscript others input).trans hinput.symm) rfl
  · intro own hne hline hcontent others d' input input'
    have hown : batchLines { lines := own, format } d' input' = .ok own := batchLines_of_own rfl hne
    have hcut : contentLines content = .ok (own.map fun line => withoutTerminator (line ++ "\n")) := by
      rw [contentLines, hcontent, textLines_eq (lines_of_texts hline), List.map_map]
      rfl
    have hsame (line : String) : trimmed (withoutTerminator (line ++ "\n")) = trimmed line := by
      rw [trimmed_withoutTerminator, trimmed_append_newline]
    exact execute_of_trimmed hsame hown ((hscript others input).trans hcut) rfl

/-- A line with a carriage return at its end, one of blanks and an empty one, as a script and as they are. -/
theorem line_sources_agree_blanks :
    let t : Terminal := ⟨⟨Bureau.tree, "recruit", "dcib", .opened (.ofTokens ["home", "recruit"])⟩, true⟩
    let own := [" cd secure\r", "  ", "", "ls"]
    let content := own.flatMap fun line => Utf8.encodeString line ++ [newline]
    let d : Disk := ⟨[], [("lines", .file content)]⟩
    d.read "/lines" = .ok content ∧
      t.execute (.exec { script := some "/lines" }) d [] = t.execute (.exec {}) d content ∧
      t.execute (.exec { lines := own }) d [] = t.execute (.exec { script := some "/lines" }) d [] := by
  intro t own content d
  have hsteps : d.stepsOf "/lines" = ["", "lines"] := by rfl
  have hlocate : d.locate "/lines" = .ok (.file ["lines"] content) := by
    rw [Disk.locate, hsteps]
    rfl
  have hread : d.read "/lines" = .ok content := (Disk.read_eq_ok_iff ..).2 ⟨_, hlocate⟩
  obtain ⟨hinput, hown⟩ := line_sources_agree t d "/lines" "text" content hread
  exact ⟨hread, hinput [] d [], hown own (by decide) (by decide) rfl [] d [] []⟩

end Terminal

end TreeShell
