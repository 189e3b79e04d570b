import TreeShell.Proofs.Batches
import TreeShell.Proofs.Json
/-!
# The two formats of a batch

A batch evaluates its lines in the same way for both formats, and then writes the one dialogue that they make:
as a transcript, or as a JSON list of records. The records keep every evaluation apart from every other
(`evaluationRecord_injective`), and the JSON reads back as these records (`read?_shown`).
-/

namespace TreeShell

open Text

theorem Console.writeLines_eq (lines : List String) : writeLines lines = String.join (lines.map (· ++ "\n")) := by
  rw [writeLines, ← String.ofList_toList (s := String.join _), String.toList_join, List.flatMap_map]
  simp

namespace Terminal

/-! ## Records of evaluations -/

theorem verbal_evaluationRecord (e : Evaluation) : Json.Verbal (evaluationRecord e) := by
  refine .record ?_
  simp only [List.forall_mem_cons, List.not_mem_nil, false_implies, implies_true, and_true]
  refine ⟨.text _, .list ?_, .bool _, .bool _⟩
  simp only [List.forall_mem_map]
  exact fun line _ => .text line

theorem evaluationRecord_injective : Function.Injective evaluationRecord := by
  rintro ⟨echo, output, moved, clears⟩ ⟨echo', output', moved', clears'⟩ h
  simp only [evaluationRecord, Document.record.injEq, List.cons.injEq, Prod.mk.injEq, Document.text.injEq,
    Document.list.injEq, Document.bool.injEq, true_and, and_true] at h
  obtain ⟨rfl, houtput, rfl, rfl⟩ := h
  rw [(List.map_inj_right fun _ _ => Document.text.inj).1 houtput]

/-- What a batch writes in JSON reads back as the records of its evaluations. -/
theorem read?_shown (seen : List (Interpreter × Evaluation)) :
    Json.read? (BatchFormat.json.shown seen) = some (.list (seen.map fun (_, e) => evaluationRecord e)) := by
  refine Json.read?_pretty (.list ?_) (by simp [Json.Token.isSpace])
  simp only [List.forall_mem_map]
  exact fun x _ => verbal_evaluationRecord x.2

/-! ## Main theorem -/

/-- Lines come to the same in both formats: to the same place, and to the evaluation of each of them in the
state that those before it lead to. In JSON these are written as a list of records, one for each line in order.
In text each is written in turn. One that clears is the banner and the prompt, and any other is its echo and its
output, each of these with a newline behind it and otherwise as it is. -/
theorem text_and_json_agree (t : Terminal) (lines : List String) :
    (∀ d : Disk, batchLines { lines } d [] = .ok lines) ∧
    ∀ (b : Batch) (d : Disk) (input : Bytes), batchLines b d input = .ok lines →
      let text := t.execute (.exec { b with format := "text" }) d input
      let json := t.execute (.exec { b with format := "json" }) d input
      let seen := t.interpreter.dialogue lines
      let records := Document.list (seen.map fun (_, e) => evaluationRecord e)
      text.error = none ∧ json.error = none ∧ text.events = json.events ∧ text.terminal = json.terminal ∧
      json.terminal = { t with interpreter := t.interpreter.after lines } ∧
      (∀ n, seen[n]? = lines[n]?.map fun line =>
        let before := t.interpreter.after (lines.take n)
        (before, (before.evaluate line).evaluation)) ∧
      json.output = Json.pretty records ++ "\n" ∧ Json.read? json.output = some records ∧
      Function.Injective evaluationRecord ∧
      text.output = String.join (seen.map fun (before, e) =>
        if e.clears then String.join ((Banner.lines ++ [before.prompt]).map (· ++ "\n"))
        else String.join ((e.echo :: e.output).map (· ++ "\n"))) := by
  constructor
  · intro d
    cases lines with
    | nil => rfl
    | cons line rest => exact batchLines_of_own rfl (List.cons_ne_nil line rest)
  · intro b d input hb text json seen records
    have htext : text = _ := execute_of_lines (b := { b with format := "text" }) hb rfl
    have hjson : json = _ := execute_of_lines (b := { b with format := "json" }) hb rfl
    rw [htext, hjson]
    refine ⟨rfl, rfl, rfl, rfl, rfl, t.interpreter.dialogue_getElem? lines, rfl, read?_shown seen,
      evaluationRecord_injective, ?_⟩
    simp only [BatchFormat.shown, Evaluation.written, Console.writeLines_eq]
    rfl

/-- The recruit moves, clears, and shows a file of two lines. -/
theorem text_and_json_agree_secure :
    let t : Terminal := ⟨⟨Bureau.tree, "recruit", "dcib", .opened (.ofTokens ["home", "recruit"])⟩, true⟩
    let own := ["cd records", "clear", "cat candidates.log"]
    let seen := t.interpreter.dialogue own
    ∀ d : Disk,
      Json.read? (t.execute (.exec { lines := own, format := "json" }) d []).output =
        some (.list (seen.map fun (_, e) => evaluationRecord e)) ∧
      (t.execute (.exec { lines := own }) d []).terminal =
        (t.execute (.exec { lines := own, format := "json" }) d []).terminal := by
  intro t own seen d
  obtain ⟨hlines, hagree⟩ := text_and_json_agree t own
  obtain ⟨-, -, -, hplace, -, -, -, hread, -⟩ := hagree { lines := own } d [] (hlines d)
  exact ⟨hread, hplace⟩

end Terminal

end TreeShell
