import TreeShell.Config.Layers
import TreeShell.Proofs.LowerCase
/-!
# Keys, paths and variable names

A row of plain keys can be written in two ways: with points between the keys, as the key of a layer, and in capitals
with doubled underlines between them, as the name of an environment variable. Both are read back as that row
(`steps_ofText_join`, `variableKey?_variableName`).
-/

namespace TreeShell.Config

open Text

/-! ## Plain keys -/

def isPlainChar (c : Char) : Bool := c.isLower || c.isDigit || c == '_' || c == '-'

/-- A key of small letters, digits, underlines and hyphens. -/
def IsPlain (k : String) : Prop := k ≠ "" ∧ k.toList.all isPlainChar = true

instance (k : String) : Decidable (IsPlain k) := inferInstanceAs (Decidable (_ ∧ _))

theorem ascii_of_isPlainChar {c : Char} (h : isPlainChar c = true) : c.toNat < 0x80 := by
  have hbound {d : Char} (hd : d.toNat < 0x80) (hle : decide (c.val ≤ d.val) = true) : c.toNat < 0x80 :=
    Nat.lt_of_le_of_lt (UInt32.le_iff_toNat_le.1 (of_decide_eq_true hle)) hd
  simp only [isPlainChar, Bool.or_eq_true, beq_iff_eq] at h
  rcases h with ((h | h) | rfl) | rfl
  · exact hbound (by decide : 'z'.toNat < 0x80) (Bool.and_eq_true_iff.1 h).2
  · exact hbound (by decide : '9'.toNat < 0x80) (Bool.and_eq_true_iff.1 h).2
  · decide
  · decide

theorem plainChar_facts {c : Char} (h : isPlainChar c = true) :
    KeyPath.isKeyChar c = true ∧ c.isUpper = false ∧ c.toUpper.toNat < 0x80 ∧ c.toUpper.toLower = c := by
  obtain ⟨n, hn, rfl⟩ := ofNat_of_lt (ascii_of_isPlainChar h)
  revert n
  decide +kernel

theorem IsPlain.of_mem {k : String} (h : IsPlain k) {c : Char} (hc : c ∈ k.toList) : isPlainChar c = true :=
  List.all_eq_true.1 h.2 c hc

theorem IsPlain.lower_eq {k : String} (h : IsPlain k) : lower k = k :=
  lower_eq_self fun _ hc => isLow_of_ascii (ascii_of_isPlainChar (h.of_mem hc)) (plainChar_facts (h.of_mem hc)).2.1

/-! ## Rows of keys, joined -/

/-- What follows the first of some texts that are joined. -/
def behind (sep : String) (texts : List String) : List Char := texts.flatMap fun t => sep.toList ++ t.toList

theorem toList_join_cons (sep t : String) (ts : List String) :
    (join sep (t :: ts)).toList = t.toList ++ behind sep ts := by
  induction ts generalizing t with
  | nil => simp [join, behind]
  | cons next rest ih =>
    rw [join, String.intercalate_cons_cons, ← join, String.toList_append, ih]
    simp [behind]

namespace KeyPath

/-- All steps of a path, the last one among them. -/
def steps (p : KeyPath) : List Step := p.way ++ [p.last]

/-- A key of the characters that a path has in its keys. -/
def IsKey (k : String) : Prop := k ≠ "" ∧ ∀ c ∈ k.toList, isKeyChar c = true

theorem scanKey_append {k : String} (hk : IsKey k) {rest : List Char} (hrest : ∀ c ∈ rest.head?, isKeyChar c = false) :
    scanKey (k.toList ++ rest) = some (.key k, rest) := by
  have hstop : rest.takeWhile isKeyChar = [] ∧ rest.dropWhile isKeyChar = rest := by
    cases rest with
    | nil => exact ⟨rfl, rfl⟩
    | cons c cs => simp [hrest c rfl]
  rw [scanKey, List.takeWhile_append_of_pos hk.2, List.dropWhile_append_of_pos hk.2, hstop.1, hstop.2, List.append_nil]
  split
  · next h => exact absurd (String.toList_eq_nil_iff.1 h) hk.1
  · rw [String.ofList_toList]

theorem head?_behind_point (ks : List String) : ∀ c ∈ (behind "." ks).head?, isKeyChar c = false := by
  cases ks with
  | nil => simp [behind]
  | cons k ks =>
    intro c hc
    obtain rfl : '.' = c := by simpa [behind] using hc
    decide

theorem scanSteps_behind {ks : List String} (h : ∀ k ∈ ks, IsKey k) (fuel : Nat) (hfuel : (behind "." ks).length ≤ fuel) :
    scanSteps fuel (behind "." ks) = some (ks.map .key) := by
  induction ks generalizing fuel with
  | nil => cases fuel <;> rfl
  | cons k ks ih =>
    have hcons : behind "." (k :: ks) = '.' :: (k.toList ++ behind "." ks) := rfl
    rw [hcons] at hfuel ⊢
    obtain ⟨fuel, rfl⟩ : ∃ n, fuel = n + 1 := ⟨fuel - 1, by simp at hfuel; omega⟩
    have hrest := ih (fun k hk => h k (by simp [hk])) fuel (by simp at hfuel; omega)
    rw [scanSteps, if_pos rfl, scanKey_append (h k (by simp)) (head?_behind_point ks)]
    simp [hrest]

theorem steps_ofText_of_scan {key : String} {steps : List Step} (h : scan key.toList = some steps) (hne : steps ≠ []) :
    (ofText key).steps = steps := by
  have hback : steps.reverse.reverse = steps := List.reverse_reverse steps
  rw [ofText, h, Option.getD_some]
  split
  · next last way hrev => rw [KeyPath.steps, ← hback, hrev, List.reverse_cons]
  · next hrev => exact absurd (List.reverse_eq_nil_iff.1 hrev) hne

/-- The steps of keys that were joined by points. -/
theorem steps_ofText_join {k : String} {ks : List String} (h : ∀ x ∈ k :: ks, IsKey x) :
    (ofText (join "." (k :: ks))).steps = (k :: ks).map .key := by
  have hscan : scan (join "." (k :: ks)).toList = some ((k :: ks).map .key) := by
    have hrest := scanSteps_behind (fun x hx => h x (by simp [hx])) _ (Nat.le_refl (behind "." ks).length)
    rw [toList_join_cons, scan, scanKey_append (h k (by simp)) (head?_behind_point ks)]
    simp [hrest]
  exact steps_ofText_of_scan hscan (by simp)

end KeyPath

theorem IsPlain.isKey {k : String} (h : IsPlain k) : KeyPath.IsKey k :=
  ⟨h.1, fun _ hc => (plainChar_facts (h.of_mem hc)).1⟩

/-! ## Names of variables -/

/-- The key that a variable sets, if its name starts like those of the configuration. -/
def variableKey? (name : String) : Option String :=
  (after? variableStart (lower name)).map fun key => String.ofList (pointed key.toList)

theorem environmentLayer_eq (env : Environment) :
    environmentLayer env =
      env.bindings.filterMap fun entry => (variableKey? entry.1).map fun key => (key, valueOfVariable entry.2) := by
  simp only [environmentLayer, variableKey?, Option.map_map]
  rfl

/-- The name of the variable for a row of keys: its start and the keys, in capitals. -/
def variableName (q : List String) : String :=
  String.ofList ((variableStart ++ join "__" q).toList.map Char.toUpper)

/-- A row of plain keys that the name of a variable can spell: the doubled underlines in it stand between the keys. -/
def IsRow (q : List String) : Prop :=
  q ≠ [] ∧ (∀ k ∈ q, IsPlain k) ∧ pointed (join "__" q).toList = (join "." q).toList

instance (q : List String) : Decidable (IsRow q) := inferInstanceAs (Decidable (_ ∧ _))

theorem IsRow.lower_eq {q : List String} (h : IsRow q) : ∀ k ∈ q, lower k = k := fun k hk => (h.2.1 k hk).lower_eq

theorem after?_append (start rest : String) : after? start (start ++ rest) = some rest := by
  simp [after?]

theorem mem_behind {sep : String} {ts : List String} {c : Char} (h : c ∈ behind sep ts) :
    c ∈ sep.toList ∨ ∃ t ∈ ts, c ∈ t.toList := by
  simp only [behind, List.mem_flatMap, List.mem_append] at h
  obtain ⟨t, ht, h | h⟩ := h
  · exact .inl h
  · exact .inr ⟨t, ht, h⟩

theorem isPlainChar_of_mem_variable {q : List String} (h : ∀ k ∈ q, IsPlain k) :
    ∀ c ∈ (variableStart ++ join "__" q).toList, isPlainChar c = true := by
  have hstart : variableStart.toList.all isPlainChar = true := by decide
  have hsep : "__".toList.all isPlainChar = true := by decide
  intro c hc
  rw [String.toList_append] at hc
  rcases List.mem_append.1 hc with hc | hc
  · exact List.all_eq_true.1 hstart c hc
  · cases q with
    | nil => simp [join] at hc
    | cons k ks =>
      rw [toList_join_cons] at hc
      rcases List.mem_append.1 hc with hc | hc
      · exact (h k (by simp)).of_mem hc
      · rcases mem_behind hc with hc | ⟨t, ht, hc⟩
        · exact List.all_eq_true.1 hsep c hc
        · exact (h t (by simp [ht])).of_mem hc

theorem lower_variableName {q : List String} (h : ∀ k ∈ q, IsPlain k) :
    lower (variableName q) = variableStart ++ join "__" q := by
  have hplain := isPlainChar_of_mem_variable h
  apply String.toList_injective
  rw [lower, variableName, String.toList_ofList, String.toList_ofList, lowerFrom_ascii, List.map_map]
  · exact (List.map_congr_left fun c hc => (plainChar_facts (hplain c hc)).2.2.2).trans (List.map_id _)
  · intro c hc
    obtain ⟨d, hd, rfl⟩ := List.mem_map.1 hc
    exact (plainChar_facts (hplain d hd)).2.2.1

/-- The variable of a row of keys sets what that row leads to. -/
theorem variableKey?_variableName {q : List String} (h : IsRow q) : variableKey? (variableName q) = some (join "." q) := by
  obtain ⟨-, hplain, hspelled⟩ := h
  rw [variableKey?, lower_variableName hplain, after?_append, Option.map_some, hspelled, String.ofList_toList]

theorem IsRow.steps_eq {q : List String} (h : IsRow q) : (KeyPath.ofText (join "." q)).steps = q.map .key := by
  obtain ⟨hne, hplain, -⟩ := h
  cases q with
  | nil => exact absurd rfl hne
  | cons k ks => exact KeyPath.steps_ofText_join fun x hx => (hplain x hx).isKey

/-- Different rows have different variables. -/
theorem variableName_inj {q r : List String} (hq : IsRow q) (hr : IsRow r) (h : variableName q = variableName r) :
    q = r := by
  have hkeys : join "." q = join "." r := by
    have := variableKey?_variableName hq
    rw [h, variableKey?_variableName hr] at this
    exact (Option.some.inj this).symm
  have hsteps : q.map Step.key = r.map .key := by rw [← hq.steps_eq, hkeys, hr.steps_eq]
  exact (List.map_inj_right fun _ _ => Step.key.inj).1 hsteps

end TreeShell.Config
