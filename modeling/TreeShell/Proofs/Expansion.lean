import TreeShell.Proofs.Resolution
/-!
# Typed paths written out

A typed path stands for a longer text that is read from the root: for itself behind a slash, and otherwise for
the text of home or of the current location with what was typed behind it (`expansion`). Resolving works on the
names of these locations and never on their text; it comes to the same (`resolve_eq_ofText_expansion`), because
the text of a location leads back to it (`ofText_text`) and a text behind a slash is followed from where the text
before it leads (`ofText_append_slash`).
-/

namespace TreeShell.Path

open Text

/-! ## Reading text from the root -/

theorem text_eq (p : Path) : p.text = "/" ++ join "/" p.segments := by
  have hjoin (names : List String) (hne : names ≠ []) :
      names.flatMap (fun s => '/' :: s.toList) = '/' :: (join "/" names).toList := by
    induction names with
    | nil => exact absurd rfl hne
    | cons n rest ih =>
      cases rest with
      | nil => simp [join]
      | cons m rest => simp [List.flatMap_cons, ih, join, String.intercalate_cons_cons]
  apply String.toList_injective
  unfold text
  split
  · next h => simp [h, join]
  · next h => simp [hjoin _ h]

/-- A slash in front changes nothing: the piece before it is empty. -/
theorem ofText_slash (rest : String) : ofText ("/" ++ rest) = root.pushAll (split '/' rest) := by
  have h : split '/' ("/" ++ rest) = "" :: split '/' rest := by simp [split, splitChars]
  rw [ofText, ofTokens, h, pushAll, List.foldl_cons, push_empty]
  rfl

theorem ofText_append_slash (a b : String) : ofText (a ++ "/" ++ b) = (ofText a).pushAll (split '/' b) := by
  rw [ofText, ofTokens, split_append_slash, pushAll_append]
  rfl

/-- The text of a location leads back to it, if no name holds a slash. -/
theorem ofText_text {p : Path} (h : p.Plain) : ofText p.text = p := by
  ext1
  rw [text_eq, ofText_slash, ← resolve_slash _ root root]
  exact segments_resolve_slash_join (fun n hn => ⟨p.isSegment n hn, h n hn⟩) root root

/-- Locations whose names hold no slash are told apart by their text. -/
theorem eq_of_text_eq {p q : Path} (hp : p.Plain) (hq : q.Plain) (h : p.text = q.text) : p = q := by
  rw [← ofText_text hp, h, ofText_text hq]

/-! ## Going up from the root -/

/-- To go up where the tokens so far lead no deeper than the root is to stay. -/
theorem ofTokens_append_up {before : List String} (h : ofTokens before = root) (behind : List String) :
    ofTokens (before ++ ".." :: behind) = ofTokens (before ++ behind) := by
  have hup : root.push ".." = root := rfl
  unfold ofTokens at h ⊢
  rw [pushAll_append, pushAll_append, h, pushAll, List.foldl_cons, hup]
  rfl

/-! ## What a typed path stands for -/

/-- The text from the root that a typed path stands for. -/
def expansion (raw : String) (current home : Path) : String :=
  if raw.toList.head? = some '/' then raw
  else if raw = "~" ∨ ['~', '/'] <+: raw.toList then home.text ++ String.ofList raw.toList.tail
  else if raw.toList.head? = some '~' then home.text ++ "/" ++ raw
  else current.text ++ "/" ++ raw

/-- A name that merely begins with a tilde is looked for under home, tilde and all. -/
theorem resolve_of_tildeName {raw : String} (htilde : raw.toList.head? = some '~') (hlone : raw ≠ "~")
    (hslash : ¬['~', '/'] <+: raw.toList) (current home : Path) :
    resolve raw current home = home.pushAll (split '/' raw) := by
  have hs : start raw current home = (home, raw) := by
    obtain ⟨cs, hcs⟩ := List.head?_eq_some_iff.1 htilde
    rcases cs with _ | ⟨c, cs⟩
    · exact absurd (String.toList_injective (by simpa using hcs)) hlone
    · have hc : c ≠ '/' := by
        rintro rfl
        exact hslash (by simp [hcs])
      simp [start, hcs, hc]
  simp [resolve, hs]

theorem resolve_of_head_slash {raw : String} (h : raw.toList.head? = some '/') (current home : Path) :
    resolve raw current home = ofText raw := by
  obtain ⟨cs, hcs⟩ := List.head?_eq_some_iff.1 h
  have hraw : raw = "/" ++ String.ofList cs := String.toList_injective (by simp [hcs])
  rw [hraw, resolve_slash, ofText_slash]

/-- Behind a lone tilde the text of home is what is typed behind it. -/
theorem resolve_of_tilde {raw : String} (h : raw = "~" ∨ ['~', '/'] <+: raw.toList) {home : Path} (hh : home.Plain)
    (current : Path) : resolve raw current home = ofText (home.text ++ String.ofList raw.toList.tail) := by
  rcases h with rfl | ⟨cs, hcs⟩
  · rw [resolve_tilde]
    simpa using (ofText_text hh).symm
  · have hraw : raw = "~" ++ "/" ++ String.ofList cs := String.toList_injective (by simp [← hcs])
    have htail : String.ofList raw.toList.tail = "/" ++ String.ofList cs :=
      String.toList_injective (by simp [← hcs])
    rw [htail, ← String.append_assoc, ofText_append_slash, ofText_text hh, hraw, resolve_append_slash (by decide),
      resolve_tilde]

/-! ## Main theorem -/

/-- Resolving a typed path against locations whose names hold no slash is reading the text that it stands for from
the root. Whatever was typed, the names of the result are proper and hold no slash, and where tokens lead to it, a
`..` among them that comes while they are at the root makes no difference. -/
theorem resolve_eq_ofText_expansion (raw : String) (current home : Path)
    (hc : ∀ name ∈ current.segments, '/' ∉ name.toList) (hh : ∀ name ∈ home.segments, '/' ∉ name.toList) :
    resolve raw current home = ofText (expansion raw current home) ∧
    (∀ name ∈ (resolve raw current home).segments,
      name ≠ "" ∧ name ≠ "." ∧ name ≠ ".." ∧ '/' ∉ name.toList) ∧
    ∀ before behind, resolve raw current home = ofTokens (before ++ ".." :: behind) → ofTokens before = root →
      resolve raw current home = ofTokens (before ++ behind) := by
  refine ⟨?_, ?_, ?_⟩
  · -- One case for each form of the text.
    unfold expansion
    split
    · next hslash => exact resolve_of_head_slash hslash current home
    · next hslash =>
      split
      · next htilde => exact resolve_of_tilde htilde hh current
      · next htilde =>
        split
        · next hname =>
          rw [ofText_append_slash, ofText_text hh]
          exact resolve_of_tildeName hname (fun h => htilde (.inl h)) (fun h => htilde (.inr h)) current home
        · next hname =>
          rw [ofText_append_slash, ofText_text hc]
          exact resolve_of_head hslash hname current home
  · intro name hn
    obtain ⟨hempty, hdot, hup⟩ := (resolve raw current home).isSegment name hn
    exact ⟨hempty, hdot, hup, Plain.resolve hc hh raw name hn⟩
  · intro before behind h hroot
    rw [h, ofTokens_append_up hroot]

/-- Three steps up from home, which lies two deep, with a repeated slash and a dot among them. -/
theorem resolve_eq_ofText_expansion_climbing :
    let home := ofTokens ["home", "recruit"]
    expansion "..//./../../srv" home home = "/home/recruit/..//./../../srv" ∧
      resolve "..//./../../srv" home home = ofText "/home/recruit/..//./../../srv" ∧
      resolve "..//./../../srv" home home = ofTokens ["", "home", "recruit", "..", "", ".", "..", "srv"] := by
  intro home
  have hplain : ∀ name ∈ home.segments, '/' ∉ name.toList := by decide +kernel
  have htext : expansion "..//./../../srv" home home = "/home/recruit/..//./../../srv" := by decide +kernel
  obtain ⟨hresolve, -, hup⟩ := resolve_eq_ofText_expansion "..//./../../srv" home home hplain hplain
  rw [htext] at hresolve
  refine ⟨htext, hresolve, ?_⟩
  exact hup ["", "home", "recruit", "..", "", ".", ".."] ["srv"] hresolve (by decide +kernel)

end TreeShell.Path
