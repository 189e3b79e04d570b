import TreeShell.Command
/-!
# The words of a line

`tokens` are a line's words as strings. A word is never empty and holds no blank
(`isWord_of_mem_words`), a blank ends the words before it (`words_append_blank`), and so the
blanks around a line do not count (`tokens_trimmed`).
-/

namespace TreeShell.Text

/-- At least one character, and none of them blank. -/
def IsWord (w : List Char) : Prop := w ≠ [] ∧ ∀ c ∈ w, isBlank c = false

/-- The words of a line, in order. -/
def tokens (line : String) : List String := (words line.toList).map String.ofList

/-! ## Words and blanks -/

theorem joinWord_append (c : Char) (glued : Bool) (ws vs : List (List Char)) (h : glued = true → ws ≠ []) :
    joinWord c glued (ws ++ vs) = joinWord c glued ws ++ vs := by
  cases ws with
  | cons w ws => cases glued <;> rfl
  | nil =>
    cases glued with
    | true => exact absurd rfl (h rfl)
    | false => cases vs <;> rfl

theorem words_ne_nil_of_startsWord {cs : List Char} (h : startsWord cs = true) : words cs ≠ [] := by
  cases cs with
  | nil => cases h
  | cons c cs =>
    simp only [startsWord, Bool.not_eq_true'] at h
    simp [words, h, joinWord_ne_nil]

/-- The words before a blank and the words after it are separate. -/
theorem words_append_blank {b : Char} (hb : isBlank b = true) (cs rest : List Char) :
    words (cs ++ b :: rest) = words cs ++ words rest := by
  induction cs with
  | nil => simp [words, hb]
  | cons c cs ih =>
    by_cases hc : isBlank c = true
    · simp [words, hc, ih]
    · -- The blank also ends the word that the character joins.
      have hs : startsWord (cs ++ b :: rest) = startsWord cs := by cases cs <;> simp [startsWord, hb]
      simp only [List.cons_append, words, hc, hs, ih]
      exact joinWord_append c _ _ _ words_ne_nil_of_startsWord

theorem words_of_isWord {w : List Char} (h : IsWord w) : words w = [w] := by
  obtain ⟨hne, hw⟩ := h
  induction w with
  | nil => exact absurd rfl hne
  | cons c cs ih =>
    have hc : isBlank c = false := hw c (by simp)
    cases cs with
    | nil => simp [words, hc, joinWord]
    | cons d ds =>
      have hd : isBlank d = false := hw d (by simp)
      have hds := ih (by simp) fun x hx => hw x (by simp [hx])
      rw [words, hds]
      simp [hc, startsWord, hd, joinWord]

theorem isWord_joinWord {c : Char} (hc : isBlank c = false) {glued : Bool} {ws : List (List Char)}
    (h : ∀ w ∈ ws, IsWord w) : ∀ w ∈ joinWord c glued ws, IsWord w := by
  have hone : IsWord [c] := ⟨by simp, by simp [hc]⟩
  cases ws with
  | nil => simpa [joinWord] using hone
  | cons v vs =>
    have hv := h v (by simp)
    have hvs : ∀ w ∈ vs, IsWord w := fun w hw => h w (by simp [hw])
    cases glued with
    | true =>
      have hcv : IsWord (c :: v) := ⟨by simp, by simpa [hc] using hv.2⟩
      simpa [joinWord, hcv] using hvs
    | false => simpa [joinWord, hone, hv] using hvs

theorem isWord_of_mem_words {cs w : List Char} (h : w ∈ words cs) : IsWord w := by
  induction cs generalizing w with
  | nil => simp [words] at h
  | cons c cs ih =>
    rw [words] at h
    split at h
    · exact ih h
    · next hc => exact isWord_joinWord (by simpa using hc) (fun _ hv => ih hv) w h

/-! ## Trimming -/

/-- A line is its trimmed form between blanks. -/
theorem exists_append_trim (cs : List Char) :
    ∃ front back, cs = front ++ trim cs ++ back ∧
      (∀ c ∈ front, isBlank c = true) ∧ ∀ c ∈ back, isBlank c = true := by
  let rest := (cs.dropWhile isBlank).reverse
  refine ⟨cs.takeWhile isBlank, (rest.takeWhile isBlank).reverse, ?_, ?_, ?_⟩
  · have hrest : trim cs ++ (rest.takeWhile isBlank).reverse = cs.dropWhile isBlank := by
      rw [trim, ← List.reverse_append, List.takeWhile_append_dropWhile, List.reverse_reverse]
    rw [List.append_assoc, hrest, List.takeWhile_append_dropWhile]
  · intro c hc
    exact List.all_eq_true.1 List.all_takeWhile c hc
  · intro c hc
    exact List.all_eq_true.1 List.all_takeWhile c (List.mem_reverse.1 hc)

theorem words_blanks_append {front : List Char} (h : ∀ c ∈ front, isBlank c = true) (cs : List Char) :
    words (front ++ cs) = words cs := by
  induction front with
  | nil => rfl
  | cons c front ih =>
    simp only [List.cons_append, words, h c (by simp), if_true]
    exact ih fun d hd => h d (by simp [hd])

theorem words_append_blanks {back : List Char} (h : ∀ c ∈ back, isBlank c = true) (cs : List Char) :
    words (cs ++ back) = words cs := by
  cases back with
  | nil => rw [List.append_nil]
  | cons b back =>
    have hback : words back = [] := (words_eq_nil_iff back).2 fun c hc => h c (by simp [hc])
    rw [words_append_blank (h b (by simp)), hback, List.append_nil]

theorem trim_append_blanks {back : List Char} (h : ∀ c ∈ back, isBlank c = true) (cs : List Char) :
    trim (cs ++ back) = trim cs := by
  have hb : back.dropWhile isBlank = [] := by
    rw [← List.append_nil back, List.dropWhile_append_of_pos h, List.dropWhile_nil]
  have hr : ∀ c ∈ back.reverse, isBlank c = true := fun c hc => h c (List.mem_reverse.1 hc)
  unfold trim
  rw [List.dropWhile_append]
  split
  · next he => simp [hb, List.isEmpty_iff.1 he]
  · rw [List.reverse_append, List.dropWhile_append_of_pos hr]

theorem words_trim (cs : List Char) : words (trim cs) = words cs := by
  obtain ⟨front, back, he, hf, hb⟩ := exists_append_trim cs
  calc words (trim cs) = words (front ++ trim cs) := (words_blanks_append hf _).symm
    _ = words (front ++ trim cs ++ back) := (words_append_blanks hb _).symm
    _ = words cs := by rw [← he]

/-! ## Lines as strings -/

theorem tokens_trimmed (line : String) : tokens (trimmed line) = tokens line := by
  simp [tokens, trimmed, words_trim]

theorem tokens_of_isWord {t : String} (h : IsWord t.toList) : tokens t = [t] := by
  simp [tokens, words_of_isWord h]

theorem isWord_of_mem_tokens {line t : String} (h : t ∈ tokens line) : IsWord t.toList := by
  obtain ⟨w, hw, rfl⟩ := List.mem_map.1 h
  simpa using isWord_of_mem_words hw

theorem ne_empty_of_isWord {t : String} (h : IsWord t.toList) : t ≠ "" := by
  rintro rfl
  exact h.1 rfl

theorem tokens_append_space (a b : String) : tokens (a ++ " " ++ b) = tokens a ++ tokens b := by
  have hs : isBlank ' ' = true := by decide
  simp [tokens, words_append_blank hs]

end TreeShell.Text

namespace TreeShell

open Text

/-- A request is the first word of a line with the other words. -/
theorem Request.ofLine_eq (line : String) :
    Request.ofLine line = match tokens line with
      | [] => none
      | name :: args => some ⟨name, args⟩ := by
  unfold Request.ofLine tokens
  cases words line.toList <;> rfl

end TreeShell
