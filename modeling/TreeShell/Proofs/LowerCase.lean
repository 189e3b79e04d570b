import TreeShell.Text.LetterCase
/-!
# Texts in lower case

What `lower` writes, it leaves alone (`lower_lower`): no character that it writes has a lower-case form of its own.
For the characters above ASCII this is a fact about the table: the characters that one run is mapped to lie in no
run (`image_isApart`).
-/

namespace TreeShell.Text

/-- A character that lower case leaves as it is, wherever it stands. -/
structure IsLow (c : Char) : Prop where
  ne_sigma : c ≠ '\u03A3'
  ne_dotted : c ≠ '\u0130'
  lowerChar_eq : lowerChar c = c

/-! ## Texts that are left alone -/

theorem lowerFrom_eq_self {cs : List Char} (h : ∀ c ∈ cs, IsLow c) (before : List Char) : lowerFrom before cs = cs := by
  induction cs generalizing before with
  | nil => rfl
  | cons c cs ih =>
    have hc : IsLow c := h c (by simp)
    rw [lowerFrom, if_neg hc.ne_sigma, if_neg hc.ne_dotted, hc.lowerChar_eq, ih fun d hd => h d (by simp [hd])]
    rfl

theorem lower_eq_self {s : String} (h : ∀ c ∈ s.toList, IsLow c) : lower s = s := by
  rw [lower, lowerFrom_eq_self h, String.ofList_toList]

/-! ## ASCII -/

theorem lowerFrom_ascii {cs : List Char} (h : ∀ c ∈ cs, c.toNat < 0x80) (before : List Char) :
    lowerFrom before cs = cs.map Char.toLower := by
  induction cs generalizing before with
  | nil => rfl
  | cons c cs ih =>
    have hc : c.toNat < 0x80 := h c (by simp)
    have hsigma : c ≠ '\u03A3' := by
      rintro rfl
      simp at hc
    have hdotted : c ≠ '\u0130' := by
      rintro rfl
      simp at hc
    have hlower : lowerChar c = c.toLower := by rw [lowerChar, if_pos hc]
    rw [lowerFrom, if_neg hsigma, if_neg hdotted, hlower, ih fun d hd => h d (by simp [hd])]
    rfl

theorem ofNat_of_lt {c : Char} {n : Nat} (h : c.toNat < n) : ∃ m < n, c = Char.ofNat m :=
  ⟨c.toNat, h, (Char.ofNat_toNat c).symm⟩

theorem toLower_of_ascii {c : Char} (hc : c.toNat < 0x80) :
    c.toLower.toNat < 0x80 ∧ c.toLower.isUpper = false ∧ (c.isUpper = false → c.toLower = c) ∧
      (c.isUpper = true → c.toNat ≤ 'Z'.toNat) := by
  obtain ⟨n, hn, rfl⟩ := ofNat_of_lt hc
  revert n
  decide +kernel

/-- ASCII but for the capitals is left alone. -/
theorem isLow_of_ascii {c : Char} (hc : c.toNat < 0x80) (hu : c.isUpper = false) : IsLow c := by
  obtain ⟨-, -, hlower, -⟩ := toLower_of_ascii hc
  refine ⟨?_, ?_, ?_⟩
  · rintro rfl
    simp at hc
  · rintro rfl
    simp at hc
  · rw [lowerChar, if_pos hc, hlower hu]

/-! ## The table -/

/-- The characters that a run is mapped to. -/
def Run.image (r : Run) : Run := ⟨(r.first + r.distance).toNat, (r.last + r.distance).toNat, r.step, 0⟩

/-- No character of one run lies in another one. A run in steps of two is also left free where it is met half
way, in steps of two or by a single character. -/
def Run.isApart (r q : Run) : Bool :=
  Nat.blt r.last q.first || Nat.blt q.last r.first ||
    (Nat.beq q.step 2 && (Nat.beq r.step 2 || Nat.beq r.first r.last) && Nat.beq ((r.first + q.first) % 2) 1)

/-- The characters that lower case may change: ASCII up to its capitals, the capital I with a dot, which has a
rule of its own, and those of the table. -/
def risingRuns : List Run := ⟨0, 'Z'.toNat, 1, 0⟩ :: ⟨0x130, 0x130, 1, 0⟩ :: lowerRuns

set_option maxRecDepth 10000 in
theorem image_isApart : (lowerRuns.all fun r => risingRuns.all r.image.isApart) = true := by
  decide +kernel

theorem Run.holds_iff {r : Run} {n : Nat} :
    r.holds n = true ↔ r.first ≤ n ∧ n ≤ r.last ∧ (n - r.first) % r.step = 0 := by
  simp [holds, and_assoc]

theorem Run.not_holds_of_isApart {r q : Run} (h : r.isApart q = true) {n : Nat} (hn : r.holds n = true) :
    q.holds n = false := by
  rw [holds_iff] at hn
  obtain ⟨hfirst, hlast, hstep⟩ := hn
  rw [Bool.eq_false_iff, ne_eq, holds_iff]
  rintro ⟨hqfirst, hqlast, hqstep⟩
  simp only [isApart, Nat.blt_eq, Nat.beq_eq, Bool.and_eq_true, Bool.or_eq_true] at h
  rcases h with (h | h) | ⟨⟨htwo, hr2 | hsingle⟩, hodd⟩
  · omega
  · omega
  · rw [hr2] at hstep
    rw [htwo] at hqstep
    omega
  · rw [htwo] at hqstep
    omega

theorem Run.image_holds {r : Run} {n : Nat} (h : r.holds n = true) (hpos : 0 < r.image.first) :
    r.image.holds (n + r.distance).toNat = true := by
  rw [holds_iff] at *
  simp only [image] at *
  obtain ⟨hfirst, hlast, hstep⟩ := h
  have hdistance : ((n : Int) + r.distance).toNat - ((r.first : Int) + r.distance).toNat = n - r.first := by omega
  exact ⟨by omega, by omega, hdistance ▸ hstep⟩

/-! ## What is written in lower case -/

theorem isLow_of_not_holds {n : Nat} (h : ∀ q ∈ risingRuns, q.holds n = false) : IsLow (Char.ofNat n) := by
  by_cases hv : n.isValidChar
  · have hn : (Char.ofNat n).toNat = n := by rw [Char.ofNat, dif_pos hv]; rfl
    have hne {c : Char} (hc : risingRuns.any (·.holds c.toNat) = true) : Char.ofNat n ≠ c := by
      rintro rfl
      obtain ⟨q, hq, hheld⟩ := List.any_eq_true.1 hc
      rw [hn, h q hq] at hheld
      cases hheld
    refine ⟨hne (by decide +kernel), hne (by decide +kernel), ?_⟩
    unfold lowerChar
    split
    · next hascii =>
      obtain ⟨-, -, hlower, hupper⟩ := toLower_of_ascii hascii
      have hz : 'Z'.toNat < n := by
        have := h _ List.mem_cons_self
        simpa [Run.holds, Nat.mod_one] using this
      exact hlower (Bool.eq_false_iff.2 fun h => by have := hupper h; omega)
    · have hnone : (lowerRuns.find? fun run => run.holds (Char.ofNat n).toNat) = none := by
        rw [List.find?_eq_none]
        intro q hq
        simp [hn, h q (List.mem_cons_of_mem _ (List.mem_cons_of_mem _ hq))]
      rw [hnone]
  · have hn : Char.ofNat n = '\x00' := by rw [Char.ofNat, dif_neg hv]; rfl
    rw [hn]
    exact isLow_of_ascii (by decide) (by decide)

theorem isLow_lowerChar {c : Char} (hs : c ≠ '\u03A3') (hd : c ≠ '\u0130') : IsLow (lowerChar c) := by
  unfold lowerChar
  split
  · next hc =>
    obtain ⟨hascii, hupper, -⟩ := toLower_of_ascii hc
    exact isLow_of_ascii hascii hupper
  · next hc =>
    cases hf : lowerRuns.find? fun run => run.holds c.toNat with
    | some r =>
      have hr : r.holds c.toNat = true := by simpa using List.find?_some hf
      have hapart : ∀ q ∈ risingRuns, r.image.isApart q = true :=
        List.all_eq_true.1 (List.all_eq_true.1 image_isApart r (List.mem_of_find?_eq_some hf))
      have hpos : 0 < r.image.first := by
        have := hapart _ List.mem_cons_self
        simp [Run.isApart] at this
        omega
      exact isLow_of_not_holds fun q hq => Run.not_holds_of_isApart (hapart q hq) (Run.image_holds hr hpos)
    | none => exact ⟨hs, hd, by rw [lowerChar, if_neg hc, hf]⟩

theorem isLow_of_mem_lowerFrom {cs before : List Char} : ∀ c ∈ lowerFrom before cs, IsLow c := by
  induction cs generalizing before with
  | nil => simp [lowerFrom]
  | cons c cs ih =>
    intro d hd
    rw [lowerFrom] at hd
    rcases List.mem_append.1 hd with hd | hd
    · split at hd
      · -- The two forms of a small sigma.
        obtain rfl | rfl : d = '\u03C2' ∨ d = '\u03C3' := by
          rw [List.mem_singleton] at hd
          split at hd
          · exact .inl hd
          · exact .inr hd
        all_goals exact ⟨by decide, by decide, by decide +kernel⟩
      · next hs =>
        split at hd
        · obtain rfl | rfl : d = 'i' ∨ d = '\u0307' := by simpa using hd
          all_goals exact ⟨by decide, by decide, by decide +kernel⟩
        · next hi =>
          rw [List.mem_singleton.1 hd]
          exact isLow_lowerChar hs hi
    · exact ih d hd

/-- Text in lower case is left alone. -/
theorem lower_lower (s : String) : lower (lower s) = lower s := by
  apply lower_eq_self
  rw [lower, String.toList_ofList]
  exact isLow_of_mem_lowerFrom

end TreeShell.Text
