import TreeShell.Proofs.Resolution
import TreeShell.Proofs.Words
/-!
# Names as words and as segments

A name is carried by two readers: the one that takes a line apart into words and the one that takes a text apart
into the segments of a path. A text comes out of the first as it is where it is a word
(`Request.ofLine_eq_self_iff`), and out of the second where it is a segment without a slash
(`Path.segments_ofText_eq_self_iff`). Apart from the NUL that is all that makes a name valid
(`Name.isValid_iff_carried`). Names without blanks make one word also behind slashes (`isWord_slash_join`).
-/

namespace TreeShell

namespace Text

/-! ## Words -/

theorem words_eq_self_iff (cs : List Char) : words cs = [cs] ↔ IsWord cs := by
  constructor
  · intro h
    have hm : cs ∈ words cs := by simp [h]
    exact isWord_of_mem_words hm
  · exact words_of_isWord

theorem isBlank_join {names : List String} (h : ∀ n ∈ names, ∀ c ∈ n.toList, isBlank c = false) :
    ∀ c ∈ (join "/" names).toList, isBlank c = false := by
  induction names with
  | nil => simp [join]
  | cons n rest ih =>
    have hn := h n (by simp)
    have hrest := ih fun m hm => h m (by simp [hm])
    cases rest with
    | nil => simpa [join] using hn
    | cons m rest =>
      have hslash : isBlank '/' = false := by decide
      intro c hc
      have hc : c ∈ n.toList ∨ c = '/' ∨ c ∈ (join "/" (m :: rest)).toList := by
        simpa [join, String.intercalate_cons_cons] using hc
      rcases hc with hc | rfl | hc
      · exact hn c hc
      · exact hslash
      · exact hrest c hc

/-- Names without blanks behind slashes are one word. -/
theorem isWord_slash_join {names : List String} (h : ∀ n ∈ names, ∀ c ∈ n.toList, isBlank c = false) :
    IsWord ("/" ++ join "/" names).toList := by
  refine ⟨by simp, ?_⟩
  intro c hc
  have hc : c = '/' ∨ c ∈ (join "/" names).toList := by simpa using hc
  rcases hc with rfl | hc
  · decide
  · exact isBlank_join h c hc

end Text

open Text

theorem Name.isWord_of_isValid {name : String} (h : isValid name = true) : IsWord name.toList := by
  refine ⟨?_, isBlank_of_isValid h⟩
  intro he
  have hempty : name = "" := String.toList_injective (by simpa using he)
  exact (isSegment_of_isValid h).1 hempty

/-- A line is a request of its own name where it is one word. -/
theorem Request.ofLine_eq_self_iff (line : String) : Request.ofLine line = some ⟨line, []⟩ ↔ IsWord line.toList := by
  rw [← words_eq_self_iff, Request.ofLine_eq, tokens]
  constructor
  · intro h
    cases hw : words line.toList with
    | nil => simp [hw] at h
    | cons w ws =>
      obtain ⟨rfl, rfl⟩ : String.ofList w = line ∧ ws = [] := by simpa [hw] using h
      rw [String.toList_ofList]
  · intro h
    rw [h, List.map_singleton, String.ofList_toList]

/-! ## Segments -/

namespace Path

/-- A text names the segment that it is where it is one and holds no slash. -/
theorem segments_ofText_eq_self_iff (raw : String) :
    (ofText raw).segments = [raw] ↔ IsSegment raw ∧ '/' ∉ raw.toList := by
  constructor
  · intro h
    have hm : raw ∈ (ofText raw).segments := by simp [h]
    exact ⟨(ofText raw).isSegment raw hm, slash_notMem_of_mem_ofText raw raw hm⟩
  · rintro ⟨hsegment, hslash⟩
    have hall : ∀ t ∈ [raw], IsSegment t := by simpa using hsegment
    rw [ofText, split_of_notMem hslash, ofTokens, segments_pushAll hall, segments_root, List.nil_append]

/-- Up again from where a segment leads. -/
theorem parent_push (p : Path) {name : String} (h : IsSegment name) : (p.push name).parent = p := by
  ext1
  rw [segments_parent, segments_push_of_isSegment p h, List.dropLast_concat]

end Path

/-! ## Main theorem -/

/-- A name is valid exactly where it holds no NUL, is a line of one word and a text of one segment, and comes out of
both readers as it is. Such a name leads from every path to one that is a segment longer, and up from there is back. -/
theorem Name.isValid_iff_carried (name : String) :
    (isValid name = true ↔
      '\x00' ∉ name.toList ∧ Request.ofLine name = some ⟨name, []⟩ ∧ (Path.ofText name).segments = [name]) ∧
    (isValid name = true → ∀ p : Path,
      (p.push name).segments = p.segments ++ [name] ∧ (p.push name).length = p.length + 1 ∧
        (p.push name).parent = p) := by
  rw [Request.ofLine_eq_self_iff, Path.segments_ofText_eq_self_iff]
  refine ⟨⟨fun h => ?_, ?_⟩, fun h p => ?_⟩
  · have hnul : '\x00' ∉ name.toList := by
      intro hm
      obtain ⟨-, hne, -⟩ := ((isValid_iff name).1 h).2 _ hm
      exact hne rfl
    exact ⟨hnul, isWord_of_isValid h, isSegment_of_isValid h, slash_notMem_of_isValid h⟩
  · rintro ⟨hnul, ⟨-, hblank⟩, hsegment, hslash⟩
    refine (isValid_iff name).2 ⟨hsegment, fun c hc => ⟨?_, ?_, hblank c hc⟩⟩
    · rintro rfl
      exact hslash hc
    · rintro rfl
      exact hnul hc
  · have hsegment := isSegment_of_isValid h
    have hpush := Path.segments_push_of_isSegment p hsegment
    exact ⟨hpush, by simp [Path.length, hpush], Path.parent_push p hsegment⟩

/-- Dots and a tilde do not make a name anything else. -/
theorem Name.isValid_iff_carried_dots :
    isValid "~...x" = true ∧ Request.ofLine "~...x" = some ⟨"~...x", []⟩ ∧
      ((Path.ofTokens ["srv"]).push "~...x").parent = Path.ofTokens ["srv"] := by
  have hv : isValid "~...x" = true := by decide +kernel
  obtain ⟨hcarried, hpush⟩ := isValid_iff_carried "~...x"
  exact ⟨hv, (hcarried.1 hv).2.1, (hpush hv _).2.2⟩

end TreeShell
