import TreeShell.Proofs.Utf8
import TreeShell.Proofs.Words
import TreeShell.Text.Lines
/-!
# Lines of a stream

`IsLines` says what the lines of a stream look like, and `lines` finds the only such lines
(`lines_eq_iff`). A newline is a character of its own wherever it stands, so a stream is valid UTF-8 exactly
where each of its lines is (`isValidUTF8_iff_lines`). Dropping a line's terminator drops blanks only
(`trimmed_withoutTerminator`).
-/

namespace TreeShell.Text

/-! ## The shape of lines -/

/-- Lines that end at their first newline, of which only the last may go without; then it is not empty. -/
inductive IsLines : List Bytes → Prop
  | nil : IsLines []
  | last {line : Bytes} (hne : line ≠ []) (h : newline ∉ line) : IsLines [line]
  | line {line : Bytes} {rest : List Bytes} (h : newline ∉ line) (hr : IsLines rest) :
    IsLines ((line ++ [newline]) :: rest)

theorem isLines_lines (bs : Bytes) : IsLines (lines bs) := by
  induction bs with
  | nil => exact .nil
  | cons b bs ih =>
    simp only [lines]
    split
    · next hb =>
      subst hb
      exact IsLines.line (List.not_mem_nil) ih
    · next hb =>
      generalize lines bs = ls at ih
      cases ih with
      | nil => exact .last (by simp) (by simpa using Ne.symm hb)
      | last hne h => exact .last (by simp) (by simp [h, Ne.symm hb])
      | @line line rest h hr =>
        have hmem : newline ∉ b :: line := by simp [h, Ne.symm hb]
        exact .line hmem hr

theorem lines_append_newline {line : Bytes} (h : newline ∉ line) (rest : Bytes) :
    lines (line ++ newline :: rest) = (line ++ [newline]) :: lines rest := by
  induction line with
  | nil => simp [lines]
  | cons b bs ih =>
    obtain ⟨hb, hbs⟩ : newline ≠ b ∧ newline ∉ bs := by simpa using h
    simp [lines, Ne.symm hb, ih hbs]

theorem lines_of_notMem {line : Bytes} (hne : line ≠ []) (h : newline ∉ line) : lines line = [line] := by
  induction line with
  | nil => exact absurd rfl hne
  | cons b bs ih =>
    obtain ⟨hb, hbs⟩ : newline ≠ b ∧ newline ∉ bs := by simpa using h
    cases bs with
    | nil => simp [lines, Ne.symm hb]
    | cons c cs =>
      rw [lines, ih (by simp) hbs]
      simp [Ne.symm hb]

theorem IsLines.lines_flatten {ls : List Bytes} (h : IsLines ls) : lines ls.flatten = ls := by
  induction h with
  | nil => rfl
  | last hne h => simpa using lines_of_notMem hne h
  | @line line rest h _ ih =>
    rw [List.flatten_cons, List.append_assoc, List.singleton_append, lines_append_newline h, ih]

/-- A stream has exactly these lines. -/
theorem lines_eq_iff (bs : Bytes) (ls : List Bytes) : lines bs = ls ↔ IsLines ls ∧ ls.flatten = bs := by
  constructor
  · rintro rfl
    exact ⟨isLines_lines bs, flatten_lines bs⟩
  · rintro ⟨h, rfl⟩
    exact h.lines_flatten

/-! ## Lines and UTF-8 -/

namespace Utf8

/-- Inside a character the next byte is none that could stand alone. -/
def State.NotAscii : State → Prop
  | .start => True
  | .inside _ low _ _ => 0x80 ≤ low

theorem notAscii_start : State.start.NotAscii := trivial

theorem notAscii_of_step {q r : State} {b : Nat} (h : step q b = .more r) : r.NotAscii := by
  cases q with
  | start =>
    simp only [step, first] at h
    repeat' split at h
    all_goals cases h
    all_goals simp [State.NotAscii]
  | inside owed low high bits =>
    simp only [step] at h
    split at h
    · cases owed <;> cases h
      exact Nat.le_refl _
    · cases h

theorem notAscii_of_run {q r : State} {bs : Bytes} {cs : List Char} (hq : q.NotAscii) (h : run q bs = some (cs, r)) :
    r.NotAscii := by
  induction bs generalizing q cs with
  | nil =>
    cases h
    exact hq
  | cons b bs ih =>
    simp only [run] at h
    split at h
    · obtain ⟨⟨tail, r'⟩, hr, he⟩ := Option.map_eq_some_iff.1 h
      cases he
      exact ih notAscii_start hr
    · next hs => exact ih (notAscii_of_step hs) h
    · cases h

/-- After a newline the reader is between characters. -/
theorem run_newline {line : Bytes} {cs : List Char} {r : State} (h : run .start (line ++ [newline]) = some (cs, r)) :
    r = .start := by
  rw [run_append] at h
  obtain ⟨⟨as, q⟩, hq, h⟩ := Option.bind_eq_some_iff.1 h
  obtain ⟨⟨bs, t⟩, ht, he⟩ := Option.map_eq_some_iff.1 h
  cases he
  have hn : q.NotAscii := notAscii_of_run notAscii_start hq
  cases q with
  | start =>
    have : bs = [Char.ofNat 10] ∧ r = .start := by simpa [run, step, first, newline, eq_comm] using ht
    exact this.2
  | inside owed low high bits =>
    -- A newline does not continue a character, so that the run would have failed.
    have hlow : ¬low ≤ newline.toNat := by
      have : newline.toNat = 10 := rfl
      simp only [State.NotAscii] at hn
      omega
    simp [run, step, hlow] at ht

/-- What stands before and after a newline is read separately. -/
theorem isSome_decode_append_newline (line rest : Bytes) :
    (decode (line ++ [newline] ++ rest)).isSome = true ↔
      (decode (line ++ [newline])).isSome = true ∧ (decode rest).isSome = true := by
  unfold decode
  rw [run_append]
  cases h : run .start (line ++ [newline]) with
  | none => simp
  | some p =>
    obtain ⟨cs, r⟩ := p
    obtain rfl := run_newline h
    simp only [Option.bind_some, Option.isSome_some, true_and]
    cases run .start rest with
    | none => simp
    | some p' =>
      obtain ⟨ds, t⟩ := p'
      cases t <;> simp

end Utf8

theorem IsLines.isSome_decode_flatten_iff {ls : List Bytes} (h : IsLines ls) :
    (Utf8.decode ls.flatten).isSome = true ↔ ∀ line ∈ ls, (Utf8.decode line).isSome = true := by
  induction h with
  | nil => simp [Utf8.decode, Utf8.run]
  | last hne h => simp
  | line h _ ih => rw [List.flatten_cons, Utf8.isSome_decode_append_newline, ih, List.forall_mem_cons]

/-- A stream is valid exactly where all its lines are. -/
theorem isValidUTF8_iff_lines (bs : Bytes) :
    bs.toByteArray.IsValidUTF8 ↔ ∀ line ∈ lines bs, line.toByteArray.IsValidUTF8 := by
  have h := (isLines_lines bs).isSome_decode_flatten_iff
  simpa only [flatten_lines, Utf8.isSome_decode_iff] using h

/-! ## Terminators -/

/-- A line is itself without its terminator, and then blanks. -/
theorem exists_append_dropTerminator (cs : List Char) :
    ∃ back, cs = dropTerminator cs ++ back ∧ ∀ c ∈ back, isBlank c = true := by
  have hn : isBlank '\n' = true := by decide
  have hr : isBlank '\r' = true := by decide
  unfold dropTerminator
  split
  · next rest h =>
    refine ⟨['\r', '\n'], ?_, by simp [hn, hr]⟩
    simpa using congrArg List.reverse h
  · next rest _ h =>
    refine ⟨['\n'], ?_, by simp [hn]⟩
    simpa using congrArg List.reverse h
  · exact ⟨[], by simp⟩

def withoutTerminator (line : String) : String := String.ofList (dropTerminator line.toList)

/-- The terminator does not count in a trimmed line. -/
theorem trimmed_withoutTerminator (line : String) : trimmed (withoutTerminator line) = trimmed line := by
  obtain ⟨back, he, hb⟩ := exists_append_dropTerminator line.toList
  have ht : trim line.toList = trim (dropTerminator line.toList) := by
    rw [he, trim_append_blanks hb, ← he]
  simp [withoutTerminator, trimmed, ht]

/-! ## The readable lines -/

/-- Lines are texts up to the first one that is not UTF-8. -/
theorem exists_texts (ls : List Bytes) :
    ∃ (texts : List String) (rest : List Bytes), ls = texts.map Utf8.encodeString ++ rest ∧
      ∀ line ∈ rest.head?, Utf8.decodeString line = none := by
  induction ls with
  | nil => exact ⟨[], [], rfl, by simp⟩
  | cons line ls ih =>
    cases h : Utf8.decodeString line with
    | none => exact ⟨[], line :: ls, rfl, by simpa using h⟩
    | some text =>
      obtain ⟨texts, rest, rfl, hrest⟩ := ih
      refine ⟨text :: texts, rest, ?_, hrest⟩
      rw [Utf8.decodeString_eq_some_iff.1 h]
      rfl

/-- All lines are texts exactly where the whole stream is valid. -/
theorem rest_eq_nil_iff {bs : Bytes} {texts : List String} {rest : List Bytes}
    (h : lines bs = texts.map Utf8.encodeString ++ rest) (hrest : ∀ line ∈ rest.head?, Utf8.decodeString line = none) :
    rest = [] ↔ bs.toByteArray.IsValidUTF8 := by
  rw [isValidUTF8_iff_lines, h]
  cases rest with
  | nil => simpa using fun text _ => Utf8.isValidUTF8_encodeString text
  | cons line rest =>
    have hline : ¬line.toByteArray.IsValidUTF8 := Utf8.decodeString_eq_none_iff.1 (hrest line (by simp))
    simp only [reduceCtorEq, false_iff]
    intro hall
    exact hline (hall line (by simp))

theorem textLines_eq {bs : Bytes} {texts : List String} (h : lines bs = texts.map Utf8.encodeString) :
    textLines bs = some (texts.map withoutTerminator) := by
  rw [textLines, h]
  clear h
  induction texts with
  | nil => rfl
  | cons text texts ih =>
    have hd : Utf8.decode (Utf8.encodeString text) = some text.toList :=
      Utf8.decode_eq_some_iff.2 (Utf8.encodeString_eq text)
    simp [hd, ih, withoutTerminator]

/-- A stream without a fault is cut into texts, and read as these without their terminators. -/
theorem exists_texts_of_valid {bs : Bytes} (h : bs.toByteArray.IsValidUTF8) :
    ∃ texts : List String, lines bs = texts.map Utf8.encodeString ∧
      textLines bs = some (texts.map withoutTerminator) := by
  obtain ⟨texts, rest, hl, hrest⟩ := exists_texts (lines bs)
  obtain rfl := (rest_eq_nil_iff hl hrest).2 h
  rw [List.append_nil] at hl
  exact ⟨texts, hl, textLines_eq hl⟩

theorem textLines_eq_none {bs : Bytes} (h : ¬bs.toByteArray.IsValidUTF8) : textLines bs = none := by
  obtain ⟨texts, rest, hl, hrest⟩ := exists_texts (lines bs)
  cases rest with
  | nil => exact absurd ((rest_eq_nil_iff hl hrest).1 rfl) h
  | cons line rest =>
    have hd : Utf8.decode line = none := by simpa [Utf8.decodeString] using hrest line rfl
    -- The faulty line ends the reading, whatever the texts before it are read as.
    rw [textLines, hl, List.mapM_append]
    simp [hd]

/-! ## Texts as lines -/

theorem newline_notMem_encodeChar {c : Char} (h : c ≠ '\n') : newline ∉ String.utf8EncodeChar c := by
  have hc : c.toNat ≠ 10 := by
    intro hc
    exact h (by rw [← Char.ofNat_toNat c, hc])
  have hv : c.val.toNat = c.toNat := rfl
  have hne : ∀ n, n % 256 ≠ 10 → newline ≠ UInt8.ofNat n := by
    intro n hn he
    have : newline.toNat = n % 256 := by simpa using congrArg UInt8.toNat he
    exact hn this.symm
  -- Every byte of a longer character has its highest bit set.
  unfold String.utf8EncodeChar
  simp only [hv]
  repeat' split
  all_goals simp only [List.mem_cons, List.not_mem_nil, or_false, not_or]
  · exact hne _ (by omega)
  · exact ⟨hne _ (by omega), hne _ (by omega)⟩
  · exact ⟨hne _ (by omega), hne _ (by omega), hne _ (by omega)⟩
  · exact ⟨hne _ (by omega), hne _ (by omega), hne _ (by omega), hne _ (by omega)⟩

theorem newline_notMem_encodeString {s : String} (h : '\n' ∉ s.toList) : newline ∉ Utf8.encodeString s := by
  rw [Utf8.encodeString_eq, List.mem_flatMap]
  rintro ⟨c, hc, hn⟩
  exact newline_notMem_encodeChar (fun he => h (he ▸ hc)) hn

theorem encodeString_append_newline (s : String) :
    Utf8.encodeString (s ++ "\n") = Utf8.encodeString s ++ [newline] := by
  simp [Utf8.encodeString_eq]
  rfl

/-- Texts on lines of their own are the lines of the stream. -/
theorem lines_of_texts {texts : List String} (h : ∀ text ∈ texts, '\n' ∉ text.toList) :
    lines (texts.flatMap fun text => Utf8.encodeString text ++ [newline]) =
      (texts.map (· ++ "\n")).map Utf8.encodeString := by
  rw [lines_eq_iff]
  constructor
  · induction texts with
    | nil => exact .nil
    | cons text texts ih =>
      have hhead := newline_notMem_encodeString (h text List.mem_cons_self)
      have hrest := ih fun text ht => h text (List.mem_cons_of_mem _ ht)
      rw [List.map_cons, List.map_cons, encodeString_append_newline]
      exact .line hhead hrest
  · simp [List.flatMap_def, Function.comp_def, encodeString_append_newline]

theorem trimmed_append_newline (line : String) : trimmed (line ++ "\n") = trimmed line := by
  have hn : isBlank '\n' = true := by decide
  have hb : ∀ c ∈ ['\n'], isBlank c = true := by simp [hn]
  simp [trimmed, trim_append_blanks hb]

end TreeShell.Text
