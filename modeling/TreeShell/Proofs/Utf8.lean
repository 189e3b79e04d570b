import TreeShell.Text.Utf8
/-!
# The reader of UTF-8 reads exactly UTF-8

The bytes of a text are those of its characters one after the other. `decode` gives the characters of these
bytes and refuses all others (`decode_eq_some_iff`), so that it succeeds exactly on the valid sequences
(`isSome_decode_iff`). A character and its bytes are tied together once for each of the four lengths, by the
lemmas `encodeChar_one` to `encodeChar_four`, which serve both directions.
-/

namespace TreeShell.Text.Utf8

/-! ## First bytes -/

theorem first_one {b : Nat} (h : b ≤ 0x7F) : first b = .char b := by
  simp [first, h]

theorem first_two : ∀ n < 0x20, 2 ≤ n → first (0xC0 + n) = .more (.inside 0 0x80 0xBF n) := by
  decide

theorem first_three : ∀ n < 0x10,
    first (0xE0 + n) =
      .more (.inside 1 (if n = 0 then 0xA0 else 0x80) (if n = 0xD then 0x9F else 0xBF) n) := by
  decide

theorem first_four : ∀ n < 5,
    first (0xF0 + n) =
      .more (.inside 2 (if n = 0 then 0x90 else 0x80) (if n = 4 then 0x8F else 0xBF) n) := by
  decide

/-- A byte opens a character of one, two, three or four bytes, or is refused. -/
theorem first_cases (b : Nat) :
    b ≤ 0x7F ∨ (∃ n < 0x20, 2 ≤ n ∧ b = 0xC0 + n) ∨ (∃ n < 0x10, b = 0xE0 + n) ∨ (∃ n < 5, b = 0xF0 + n) ∨
      first b = .refuse := by
  by_cases h1 : b ≤ 0x7F
  · exact .inl h1
  by_cases h2 : 0xC2 ≤ b ∧ b ≤ 0xDF
  · exact .inr (.inl ⟨b - 0xC0, by omega, by omega, by omega⟩)
  by_cases h3 : 0xE0 ≤ b ∧ b ≤ 0xEF
  · exact .inr (.inr (.inl ⟨b - 0xE0, by omega, by omega⟩))
  by_cases h4 : 0xF0 ≤ b ∧ b ≤ 0xF4
  · exact .inr (.inr (.inr (.inl ⟨b - 0xF0, by omega, by omega⟩)))
  refine .inr (.inr (.inr (.inr ?_)))
  unfold first
  repeat' split
  all_goals first | rfl | omega

/-- The second of three bytes, where overlong forms and surrogates are left out. -/
theorem second_of_three_iff {n x : Nat} :
    ((if n = 0 then 0xA0 else 0x80) ≤ x ∧ x ≤ if n = 0xD then 0x9F else 0xBF) ↔
      0x80 ≤ x ∧ x ≤ 0xBF ∧ (n = 0 → 0xA0 ≤ x) ∧ (n = 0xD → x ≤ 0x9F) := by
  split <;> split <;> omega

/-- The second of four bytes, where overlong forms and what lies beyond the last code point are left out. -/
theorem second_of_four_iff {n x : Nat} :
    ((if n = 0 then 0x90 else 0x80) ≤ x ∧ x ≤ if n = 4 then 0x8F else 0xBF) ↔
      0x80 ≤ x ∧ x ≤ 0xBF ∧ (n = 0 → 0x90 ≤ x) ∧ (n = 4 → x ≤ 0x8F) := by
  split <;> split <;> omega

/-! ## Running -/

theorem run_one {b : UInt8} (h : b.toNat ≤ 0x7F) (bs : Bytes) :
    run .start (b :: bs) = (run .start bs).map fun (cs, r) => (Char.ofNat b.toNat :: cs, r) := by
  simp [run, step, first_one h]

theorem run_first {b : UInt8} {q : State} (h : first b.toNat = .more q) (bs : Bytes) :
    run .start (b :: bs) = run q bs := by
  simp [run, step, h]

theorem run_last {low high bits : Nat} {b : UInt8} (h : low ≤ b.toNat ∧ b.toNat ≤ high) (bs : Bytes) :
    run (.inside 0 low high bits) (b :: bs) =
      (run .start bs).map fun (cs, r) => (Char.ofNat (bits * 64 + (b.toNat - 0x80)) :: cs, r) := by
  simp [run, step, h]

theorem run_more {k low high bits : Nat} {b : UInt8} (h : low ≤ b.toNat ∧ b.toNat ≤ high) (bs : Bytes) :
    run (.inside (k + 1) low high bits) (b :: bs) =
      run (.inside k 0x80 0xBF (bits * 64 + (b.toNat - 0x80))) bs := by
  simp [run, step, h]

/-- Inside a character there is a next byte, and it lies between the bounds. -/
theorem exists_cons_of_run_inside {owed low high bits : Nat} {bs : Bytes} {cs : List Char}
    (h : run (.inside owed low high bits) bs = some (cs, .start)) :
    ∃ b rest, bs = b :: rest ∧ (low ≤ b.toNat ∧ b.toNat ≤ high) := by
  cases bs with
  | nil => simp [run] at h
  | cons b rest =>
    by_cases hb : low ≤ b.toNat ∧ b.toNat ≤ high
    · exact ⟨b, rest, rfl, hb⟩
    · simp [run, step, hb] at h

theorem exists_tail_of_map {bs : Bytes} {c : Char} {cs : List Char}
    (h : ((run .start bs).map fun (cs, r) => (c :: cs, r)) = some (cs, .start)) :
    ∃ tail, cs = c :: tail ∧ run .start bs = some (tail, .start) := by
  obtain ⟨⟨tail, r⟩, hr, he⟩ := Option.map_eq_some_iff.1 h
  obtain ⟨rfl, rfl⟩ := Prod.mk.injEq .. ▸ he
  exact ⟨tail, rfl, hr⟩

/-! ## The bytes of a character -/

section Encoding

variable {c : Char} {b₁ b₂ b₃ b₄ : UInt8}

theorem ofNat_of_toNat {b : UInt8} {n : Nat} (h : b.toNat = n) : UInt8.ofNat n = b := by
  rw [← h, UInt8.ofNat_toNat]

theorem encodeChar_one (hc : c.toNat ≤ 0x7F) (h₁ : b₁.toNat = c.toNat) : String.utf8EncodeChar c = [b₁] := by
  have hv : c.val.toNat = c.toNat := rfl
  simp [String.utf8EncodeChar, hv, hc, ofNat_of_toNat h₁]

theorem encodeChar_two (hc : 0x7F < c.toNat) (hc' : c.toNat ≤ 0x7FF) (h₁ : b₁.toNat = 0xC0 + c.toNat / 64)
    (h₂ : b₂.toNat = 0x80 + c.toNat % 64) : String.utf8EncodeChar c = [b₁, b₂] := by
  have hv : c.val.toNat = c.toNat := rfl
  unfold String.utf8EncodeChar
  simp only [hv]
  rw [if_neg (by omega), if_pos hc', ofNat_of_toNat (b := b₁) (by omega), ofNat_of_toNat (b := b₂) (by omega)]

theorem encodeChar_three (hc : 0x7FF < c.toNat) (hc' : c.toNat ≤ 0xFFFF) (h₁ : b₁.toNat = 0xE0 + c.toNat / 4096)
    (h₂ : b₂.toNat = 0x80 + c.toNat / 64 % 64) (h₃ : b₃.toNat = 0x80 + c.toNat % 64) :
    String.utf8EncodeChar c = [b₁, b₂, b₃] := by
  have hv : c.val.toNat = c.toNat := rfl
  unfold String.utf8EncodeChar
  simp only [hv]
  rw [if_neg (by omega), if_neg (by omega), if_pos hc', ofNat_of_toNat (b := b₁) (by omega),
    ofNat_of_toNat (b := b₂) (by omega), ofNat_of_toNat (b := b₃) (by omega)]

theorem encodeChar_four (hc : 0xFFFF < c.toNat) (hc' : c.toNat < 0x110000)
    (h₁ : b₁.toNat = 0xF0 + c.toNat / 262144) (h₂ : b₂.toNat = 0x80 + c.toNat / 4096 % 64)
    (h₃ : b₃.toNat = 0x80 + c.toNat / 64 % 64) (h₄ : b₄.toNat = 0x80 + c.toNat % 64) :
    String.utf8EncodeChar c = [b₁, b₂, b₃, b₄] := by
  have hv : c.val.toNat = c.toNat := rfl
  unfold String.utf8EncodeChar
  simp only [hv]
  rw [if_neg (by omega), if_neg (by omega), if_neg (by omega), ofNat_of_toNat (b := b₁) (by omega),
    ofNat_of_toNat (b := b₂) (by omega), ofNat_of_toNat (b := b₃) (by omega),
    ofNat_of_toNat (b := b₄) (by omega)]

end Encoding

theorem exists_byte {n : Nat} (h : n < 0x100) : ∃ b : UInt8, b.toNat = n :=
  ⟨UInt8.ofNat n, by simpa using Nat.mod_eq_of_lt h⟩

theorem toNat_ofNat {n : Nat} (h : n < 0xD800 ∨ 0xDFFF < n ∧ n < 0x110000) : (Char.ofNat n).toNat = n := by
  have hv : n.isValidChar := h
  rw [Char.ofNat, dif_pos hv]
  rfl

/-- The reader turns the bytes of a character into it. -/
theorem run_encodeChar (c : Char) (bs : Bytes) :
    run .start (String.utf8EncodeChar c ++ bs) = (run .start bs).map fun (cs, r) => (c :: cs, r) := by
  have hc : c.toNat < 0xD800 ∨ 0xDFFF < c.toNat ∧ c.toNat < 0x110000 := c.valid
  have hof : ∀ n, n = c.toNat → Char.ofNat n = c := by
    rintro _ rfl
    exact Char.ofNat_toNat c
  by_cases h1 : c.toNat ≤ 0x7F
  · obtain ⟨b₁, hb₁⟩ := exists_byte (n := c.toNat) (by omega)
    rw [encodeChar_one h1 hb₁, List.singleton_append, run_one (by omega), hof _ hb₁]
  by_cases h2 : c.toNat ≤ 0x7FF
  · obtain ⟨b₁, hb₁⟩ := exists_byte (n := 0xC0 + c.toNat / 64) (by omega)
    obtain ⟨b₂, hb₂⟩ := exists_byte (n := 0x80 + c.toNat % 64) (by omega)
    have hq := hb₁ ▸ first_two (c.toNat / 64) (by omega) (by omega)
    rw [encodeChar_two (by omega) h2 hb₁ hb₂]
    simp only [List.cons_append, List.nil_append]
    rw [run_first hq, run_last (by omega), hof _ (by omega)]
  by_cases h3 : c.toNat ≤ 0xFFFF
  · obtain ⟨b₁, hb₁⟩ := exists_byte (n := 0xE0 + c.toNat / 4096) (by omega)
    obtain ⟨b₂, hb₂⟩ := exists_byte (n := 0x80 + c.toNat / 64 % 64) (by omega)
    obtain ⟨b₃, hb₃⟩ := exists_byte (n := 0x80 + c.toNat % 64) (by omega)
    have hq := hb₁ ▸ first_three (c.toNat / 4096) (by omega)
    rw [encodeChar_three (by omega) h3 hb₁ hb₂ hb₃]
    simp only [List.cons_append, List.nil_append]
    rw [run_first hq, run_more (second_of_three_iff.2 (by omega)), run_last (by omega), hof _ (by omega)]
  · obtain ⟨b₁, hb₁⟩ := exists_byte (n := 0xF0 + c.toNat / 262144) (by omega)
    obtain ⟨b₂, hb₂⟩ := exists_byte (n := 0x80 + c.toNat / 4096 % 64) (by omega)
    obtain ⟨b₃, hb₃⟩ := exists_byte (n := 0x80 + c.toNat / 64 % 64) (by omega)
    obtain ⟨b₄, hb₄⟩ := exists_byte (n := 0x80 + c.toNat % 64) (by omega)
    have hq := hb₁ ▸ first_four (c.toNat / 262144) (by omega)
    rw [encodeChar_four (by omega) (by omega) hb₁ hb₂ hb₃ hb₄]
    simp only [List.cons_append, List.nil_append]
    rw [run_first hq, run_more (second_of_four_iff.2 (by omega)), run_more (by omega), run_last (by omega),
      hof _ (by omega)]

/-- What the reader accepts starts with the bytes of the first character that it reads. -/
theorem exists_encodeChar_of_run {b : UInt8} {bs : Bytes} {cs : List Char}
    (h : run .start (b :: bs) = some (cs, .start)) :
    ∃ c rest tail, b :: bs = String.utf8EncodeChar c ++ rest ∧ cs = c :: tail ∧
      run .start rest = some (tail, .start) := by
  -- The first byte says how many follow. The bounds on the second keep the value out of the shorter forms, so
  -- that the value is encoded with as many bytes again.
  rcases first_cases b.toNat with h1 | ⟨n, hn, hn', hb⟩ | ⟨n, hn, hb⟩ | ⟨n, hn, hb⟩ | hno
  · rw [run_one h1] at h
    obtain ⟨tail, rfl, hr⟩ := exists_tail_of_map h
    have hc := toNat_ofNat (n := b.toNat) (by omega)
    refine ⟨_, bs, tail, ?_, rfl, hr⟩
    rw [encodeChar_one (by omega) hc.symm, List.singleton_append]
  · rw [run_first (hb ▸ first_two n hn hn')] at h
    obtain ⟨b₂, rest, rfl, h₂⟩ := exists_cons_of_run_inside h
    rw [run_last h₂] at h
    obtain ⟨tail, rfl, hr⟩ := exists_tail_of_map h
    have hc := toNat_ofNat (n := n * 64 + (b₂.toNat - 0x80)) (by omega)
    refine ⟨_, rest, tail, ?_, rfl, hr⟩
    rw [@encodeChar_two _ b b₂ (by omega) (by omega) (by omega) (by omega)]
    rfl
  · rw [run_first (hb ▸ first_three n hn)] at h
    obtain ⟨b₂, bs, rfl, h₂⟩ := exists_cons_of_run_inside h
    rw [run_more h₂] at h
    obtain ⟨b₃, rest, rfl, h₃⟩ := exists_cons_of_run_inside h
    rw [run_last h₃] at h
    obtain ⟨tail, rfl, hr⟩ := exists_tail_of_map h
    rw [second_of_three_iff] at h₂
    have hc := toNat_ofNat (n := (n * 64 + (b₂.toNat - 0x80)) * 64 + (b₃.toNat - 0x80)) (by omega)
    refine ⟨_, rest, tail, ?_, rfl, hr⟩
    rw [@encodeChar_three _ b b₂ b₃ (by omega) (by omega) (by omega) (by omega) (by omega)]
    rfl
  · rw [run_first (hb ▸ first_four n hn)] at h
    obtain ⟨b₂, bs, rfl, h₂⟩ := exists_cons_of_run_inside h
    rw [run_more h₂] at h
    obtain ⟨b₃, bs, rfl, h₃⟩ := exists_cons_of_run_inside h
    rw [run_more h₃] at h
    obtain ⟨b₄, rest, rfl, h₄⟩ := exists_cons_of_run_inside h
    rw [run_last h₄] at h
    obtain ⟨tail, rfl, hr⟩ := exists_tail_of_map h
    rw [second_of_four_iff] at h₂
    have hc := toNat_ofNat
      (n := ((n * 64 + (b₂.toNat - 0x80)) * 64 + (b₃.toNat - 0x80)) * 64 + (b₄.toNat - 0x80)) (by omega)
    refine ⟨_, rest, tail, ?_, rfl, hr⟩
    rw [@encodeChar_four _ b b₂ b₃ b₄ (by omega) (by omega) (by omega) (by omega)
      (by omega) (by omega)]
    rfl
  · simp [run, step, hno] at h

/-! ## Whole texts -/

theorem run_flatMap_encodeChar (cs : List Char) :
    run .start (cs.flatMap String.utf8EncodeChar) = some (cs, .start) := by
  induction cs with
  | nil => rfl
  | cons c cs ih => rw [List.flatMap_cons, run_encodeChar, ih]; rfl

theorem eq_flatMap_of_run {bs : Bytes} {cs : List Char} (h : run .start bs = some (cs, .start)) :
    bs = cs.flatMap String.utf8EncodeChar := by
  induction cs generalizing bs with
  | nil =>
    cases bs with
    | nil => rfl
    | cons b bs =>
      obtain ⟨c, rest, tail, -, hcs, -⟩ := exists_encodeChar_of_run h
      cases hcs
  | cons c cs ih =>
    cases bs with
    | nil => simp [run] at h
    | cons b bs =>
      obtain ⟨c, rest, tail, hb, hcs, hr⟩ := exists_encodeChar_of_run h
      cases hcs
      rw [hb, List.flatMap_cons, ih hr]

/-- The reader gives these characters exactly for their own bytes. -/
theorem decode_eq_some_iff {bs : Bytes} {cs : List Char} :
    decode bs = some cs ↔ bs = cs.flatMap String.utf8EncodeChar := by
  have hrun : decode bs = some cs ↔ run .start bs = some (cs, .start) := by
    unfold decode
    split <;> simp_all
  rw [hrun]
  constructor
  · exact eq_flatMap_of_run
  · rintro rfl
    exact run_flatMap_encodeChar cs

/-- The reader accepts exactly the byte sequences that are valid UTF-8. -/
theorem isSome_decode_iff (bs : Bytes) : (decode bs).isSome = true ↔ bs.toByteArray.IsValidUTF8 := by
  rw [Option.isSome_iff_exists]
  constructor
  · rintro ⟨cs, h⟩
    exact ⟨cs, by rw [decode_eq_some_iff.1 h]; rfl⟩
  · rintro ⟨cs, h⟩
    have hb : bs = cs.flatMap String.utf8EncodeChar := by
      have := congrArg (·.data.toList) h
      simpa [List.utf8Encode] using this
    exact ⟨cs, decode_eq_some_iff.2 hb⟩

/-! ## Strings -/

theorem toList_loop (bytes : ByteArray) (i : Nat) (acc : List UInt8) :
    ByteArray.toList.loop bytes i acc = acc.reverse ++ bytes.data.toList.drop i := by
  fun_induction ByteArray.toList.loop bytes i acc with
  | case1 i acc h ih =>
    have hi : i < bytes.data.toList.length := by simpa using h
    rw [ih, List.drop_eq_getElem_cons hi]
    simp [ByteArray.get!, h]
  | case2 i acc h =>
    rw [List.drop_eq_nil_of_le (by simpa using Nat.le_of_not_lt h)]
    simp

theorem encodeString_eq (s : String) : encodeString s = s.toList.flatMap String.utf8EncodeChar := by
  have h : s.toByteArray.data = (s.toList.flatMap String.utf8EncodeChar).toArray := by
    rw [← String.utf8Encode_toList, List.utf8Encode, List.data_toByteArray]
  simp [encodeString, ByteArray.toList, toList_loop, h]

theorem isValidUTF8_encodeString (s : String) : (encodeString s).toByteArray.IsValidUTF8 :=
  ⟨s.toList, by rw [encodeString_eq]; rfl⟩

/-- The reader gives this text exactly for its own bytes. -/
theorem decodeString_eq_some_iff {bs : Bytes} {s : String} : decodeString bs = some s ↔ bs = encodeString s := by
  rw [encodeString_eq, ← decode_eq_some_iff, decodeString, Option.map_eq_some_iff]
  constructor
  · rintro ⟨cs, h, rfl⟩
    rwa [String.toList_ofList]
  · intro h
    exact ⟨s.toList, h, String.ofList_toList⟩

theorem decodeString_eq_none_iff {bs : Bytes} : decodeString bs = none ↔ ¬bs.toByteArray.IsValidUTF8 := by
  rw [← isSome_decode_iff, decodeString, Option.map_eq_none_iff]
  simp

end TreeShell.Text.Utf8
