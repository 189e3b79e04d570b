import TreeShell.Name
/-!
# What a typed path names

Pieces without slashes survive being joined and split again (`split_join`). With that, `resolve` is known
for the two forms that name a location outright: names behind slashes (`segments_resolve_slash_join`) and
a single name (`resolve_of_isValid`), which a leading tilde sends home. No rule brings in a name that
holds a slash (`Plain.resolve`), and what stands behind a slash is followed from where the text before it
leads (`resolve_resolve`).
-/

namespace TreeShell

namespace Text

/-! ## Splitting what was joined -/

theorem splitChars_of_notMem {sep : Char} {cs : List Char} (h : sep ∉ cs) : splitChars sep cs = [cs] := by
  induction cs with
  | nil => rfl
  | cons c cs ih =>
    obtain ⟨hc, hcs⟩ : sep ≠ c ∧ sep ∉ cs := by simpa using h
    simp [splitChars, Ne.symm hc, ih hcs]

theorem splitChars_append {sep : Char} {piece : List Char} (h : sep ∉ piece) (rest : List Char) :
    splitChars sep (piece ++ sep :: rest) = piece :: splitChars sep rest := by
  induction piece with
  | nil => simp [splitChars]
  | cons c cs ih =>
    obtain ⟨hc, hcs⟩ : sep ≠ c ∧ sep ∉ cs := by simpa using h
    simp [splitChars, Ne.symm hc, ih hcs]

/-- A separator between two texts separates their pieces. -/
theorem splitChars_append_sep (sep : Char) (as bs : List Char) :
    splitChars sep (as ++ sep :: bs) = splitChars sep as ++ splitChars sep bs := by
  induction as with
  | nil => simp [splitChars]
  | cons c cs ih =>
    simp only [List.cons_append, splitChars, ih]
    split
    · rfl
    · cases h : splitChars sep cs with
      | nil => exact absurd h (splitChars_ne_nil sep cs)
      | cons piece pieces => rfl

theorem split_append_slash (s t : String) : split '/' (s ++ "/" ++ t) = split '/' s ++ split '/' t := by
  simp [split, splitChars_append_sep]

theorem split_of_notMem {sep : Char} {s : String} (h : sep ∉ s.toList) : split sep s = [s] := by
  simp [split, splitChars_of_notMem h]

/-- Names without slashes come back as they were. -/
theorem split_join {names : List String} (hne : names ≠ []) (h : ∀ n ∈ names, '/' ∉ n.toList) :
    split '/' (join "/" names) = names := by
  induction names with
  | nil => exact absurd rfl hne
  | cons n rest ih =>
    cases rest with
    | nil => simpa [join] using split_of_notMem (h n (by simp))
    | cons m rest =>
      have hj : (join "/" (n :: m :: rest)).toList = n.toList ++ '/' :: (join "/" (m :: rest)).toList := by
        simp [join, String.intercalate_cons_cons]
      have hrest := ih (by simp) fun k hk => h k (by simp [hk])
      -- The first slash is the one that was put behind the first name.
      rw [split, hj, splitChars_append (h n (by simp)), List.map_cons, String.ofList_toList]
      exact congrArg (n :: ·) hrest

/-! ## Pieces of a text -/

theorem subset_joinChars {sep : Char} {pieces : List (List Char)} {piece : List Char} (h : piece ∈ pieces) :
    piece ⊆ joinChars sep pieces := by
  induction pieces with
  | nil => cases h
  | cons first rest ih =>
    cases rest with
    | nil => simp_all [joinChars]
    | cons next rest =>
      rcases List.mem_cons.1 h with rfl | h
      · exact List.subset_append_left _ _
      · exact List.Subset.trans (ih h) (List.subset_append_of_subset_right _ (List.subset_cons_self _ _))

/-- A piece is made of characters of the text. -/
theorem mem_of_mem_split {sep : Char} {s t : String} (h : t ∈ split sep s) {c : Char} (hc : c ∈ t.toList) :
    c ∈ s.toList := by
  obtain ⟨piece, hp, rfl⟩ := List.mem_map.1 h
  rw [String.toList_ofList] at hc
  rw [← joinChars_splitChars sep s.toList]
  exact subset_joinChars hp hc

end Text

open Text

namespace Path

/-- No name holds a slash. -/
def Plain (p : Path) : Prop := ∀ name ∈ p.segments, '/' ∉ name.toList

/-! ## Pushing tokens -/

theorem segments_pushAll {tokens : List String} (h : ∀ t ∈ tokens, IsSegment t) (p : Path) :
    (p.pushAll tokens).segments = p.segments ++ tokens := by
  induction tokens generalizing p with
  | nil => simp [pushAll]
  | cons t ts ih =>
    have ht : IsSegment t := h t (by simp)
    have := ih (fun u hu => h u (by simp [hu])) (p.push t)
    rw [segments_push_of_isSegment p ht] at this
    simpa [pushAll] using this

theorem pushAll_append (p : Path) (ts us : List String) : p.pushAll (ts ++ us) = (p.pushAll ts).pushAll us :=
  List.foldl_append

theorem push_empty (p : Path) : p.push "" = p := by
  ext1
  rw [segments_push, if_neg (by decide), if_neg (by decide)]

/-- A name pushed onto two paths gives the same path only if they are the same. -/
theorem push_left_inj {p q : Path} {name : String} (h : IsSegment name) : p.push name = q.push name ↔ p = q := by
  constructor
  · intro he
    have := congrArg segments he
    rw [segments_push_of_isSegment p h, segments_push_of_isSegment q h] at this
    exact Path.ext (List.append_cancel_right this)
  · rintro rfl
    rfl

theorem push_ne_self (p : Path) {name : String} (h : IsSegment name) : p.push name ≠ p := by
  intro he
  have := congrArg (·.segments.length) he
  simp [segments_push_of_isSegment p h] at this

/-! ## Where a typed path starts -/

theorem start_fst (raw : String) (current home : Path) :
    (start raw current home).1 = root ∨ (start raw current home).1 = home ∨
      (start raw current home).1 = current := by
  unfold start
  split <;> simp

/-- What is left to follow is the end of what was typed. -/
theorem start_snd_suffix (raw : String) (current home : Path) :
    (start raw current home).2.toList <:+ raw.toList := by
  unfold start
  split
  · next rest h => simp [h]
  · next rest h => exact ⟨['~', '/'], by simp [h]⟩
  · exact List.nil_suffix
  · exact List.suffix_rfl
  · exact List.suffix_rfl

theorem resolve_eq (raw : String) (current home : Path) :
    resolve raw current home = (start raw current home).1.pushAll (split '/' (start raw current home).2) := rfl

/-- A typed path brings in only names that are made of its characters and hold no slash. -/
theorem mem_segments_resolve {raw : String} {current home : Path} {name : String}
    (h : name ∈ (resolve raw current home).segments) :
    name ∈ current.segments ∨ name ∈ home.segments ∨
      ('/' ∉ name.toList ∧ ∀ c ∈ name.toList, c ∈ raw.toList) := by
  rw [resolve_eq] at h
  rcases mem_segments_pushAll h with h | h
  · rcases start_fst raw current home with hs | hs | hs <;> rw [hs] at h
    · simp at h
    · exact .inr (.inl h)
    · exact .inl h
  · refine .inr (.inr ⟨slash_notMem_of_mem_split h, ?_⟩)
    intro c hc
    exact (start_snd_suffix raw current home).subset (mem_of_mem_split h hc)

/-- No typed path brings in a name that holds a slash. -/
theorem Plain.resolve {current home : Path} (hc : current.Plain) (hh : home.Plain) (raw : String) :
    (resolve raw current home).Plain := by
  intro name hn
  rcases mem_segments_resolve hn with h | h | ⟨h, -⟩
  · exact hc name h
  · exact hh name h
  · exact h

theorem resolve_slash (rest : String) (current home : Path) :
    resolve ("/" ++ rest) current home = root.pushAll (split '/' rest) := by
  have h : ("/" ++ rest).toList = '/' :: rest.toList := by simp
  simp [resolve, start, h]

theorem resolve_tilde (current home : Path) : resolve "~" current home = home := by
  have h : start "~" current home = (home, "") := by simp [start]
  have hs : split '/' "" = [""] := by simp [split, splitChars]
  simp [resolve, h, hs, pushAll, push_empty]

/-- Names behind slashes name the location that they lead to from the root. -/
theorem segments_resolve_slash_join {names : List String} (h : ∀ n ∈ names, IsSegment n ∧ '/' ∉ n.toList)
    (current home : Path) : (resolve ("/" ++ join "/" names) current home).segments = names := by
  rw [resolve_slash]
  by_cases hne : names = []
  · subst hne
    have hs : split '/' (join "/" []) = [""] := by simp [join, split, splitChars]
    rw [hs]
    simp [pushAll, push_empty]
  · rw [split_join hne fun n hn => (h n hn).2, segments_pushAll fun n hn => (h n hn).1]
    rfl

/-! ## Targets joined by a slash -/

/-- What is typed behind a target and a slash is left to follow behind the target, from where it starts. Only
the lone tilde is used up by the slash. -/
theorem start_append_slash {a : String} (hne : a ≠ "") (htilde : a ≠ "~") (b : String) (current home : Path) :
    start (a ++ "/" ++ b) current home = ((start a current home).1, (start a current home).2 ++ "/" ++ b) := by
  have hjoin : ∀ cs : List Char, String.ofList cs ++ "/" ++ b = String.ofList (cs ++ '/' :: b.toList) := by
    intro cs
    apply String.toList_injective
    simp only [String.toList_append, String.toList_ofList]
    simp
  obtain ⟨cs, rfl⟩ : ∃ cs, a = String.ofList cs := ⟨a.toList, by simp⟩
  rcases cs with _ | ⟨c, cs⟩
  · exact absurd rfl hne
  · by_cases hc : c = '/'
    · subst hc
      simp [start, hjoin]
    · by_cases ht : c = '~'
      · subst ht
        rcases cs with _ | ⟨d, ds⟩
        · exact absurd rfl htilde
        · by_cases hd : d = '/'
          · subst hd
            simp [start, hjoin]
          · simp [start, hd]
      · simp [start, hc, ht]

/-- A target and a second one behind a slash name what the pieces of the second lead to from the first. -/
theorem resolve_append_slash {a : String} (hne : a ≠ "") (b : String) (current home : Path) :
    resolve (a ++ "/" ++ b) current home = (resolve a current home).pushAll (split '/' b) := by
  by_cases htilde : a = "~"
  · -- Here the slash belongs to the prefix that names home, and no piece stands in front of it.
    subst htilde
    have hs : start ("~" ++ "/" ++ b) current home = (home, b) := by simp [start]
    rw [resolve_tilde, resolve, hs]
  · simp only [resolve, start_append_slash hne htilde, split_append_slash, pushAll_append]

/-- A target with neither a slash nor a tilde in front is read from the current location. -/
theorem resolve_of_head {b : String} (hslash : b.toList.head? ≠ some '/') (htilde : b.toList.head? ≠ some '~')
    (current home : Path) : resolve b current home = current.pushAll (split '/' b) := by
  have hs : start b current home = (current, b) := by
    unfold start
    split <;> simp_all
  simp [resolve, hs]

/-- Following one target and then another is following both joined by a slash. -/
theorem resolve_resolve {a b : String} (hne : a ≠ "") (hslash : b.toList.head? ≠ some '/')
    (htilde : b.toList.head? ≠ some '~') (current home : Path) :
    resolve (a ++ "/" ++ b) current home = resolve b (resolve a current home) home := by
  rw [resolve_append_slash hne, resolve_of_head hslash htilde]

end Path

namespace Name

/-- Whether a typed path that consists of the name is read from home. -/
def startsWithTilde (name : String) : Bool := name.toList.head? == some '~'

theorem isSegment_of_isValid {name : String} (h : isValid name = true) : IsSegment name := ((isValid_iff name).1 h).1

theorem slash_notMem_of_isValid {name : String} (h : isValid name = true) : '/' ∉ name.toList := by
  intro hm
  obtain ⟨hslash, -⟩ := ((isValid_iff name).1 h).2 '/' hm
  exact hslash rfl

theorem isBlank_of_isValid {name : String} (h : isValid name = true) : ∀ c ∈ name.toList, isBlank c = false := by
  intro c hc
  obtain ⟨-, -, hblank⟩ := ((isValid_iff name).1 h).2 c hc
  exact hblank

end Name

/-- A single name stands for the child of the current location, unless it starts with a tilde: then it
stands for the child of home, and a lone tilde for home itself. -/
theorem Path.resolve_of_isValid {name : String} (h : Name.isValid name = true) (current home : Path) :
    resolve name current home =
      if Name.startsWithTilde name then (if name = "~" then home else home.push name)
      else current.push name := by
  have hslash := Name.slash_notMem_of_isValid h
  have hsplit := split_of_notMem hslash
  have hname : ∀ {cs : List Char}, name.toList = cs → name = String.ofList cs := by
    rintro _ rfl
    exact String.ofList_toList.symm
  cases hl : name.toList with
  | nil => exact absurd (hname hl) (Name.isSegment_of_isValid h).1
  | cons c cs =>
    rw [hl] at hslash
    have hc : c ≠ '/' := fun e => hslash (by simp [e])
    -- A tilde decides where the path starts, alone or with a name behind it.
    by_cases ht : c = '~'
    · subst ht
      have hs : Name.startsWithTilde name = true := by simp [Name.startsWithTilde, hl]
      rw [if_pos hs]
      cases cs with
      | nil =>
        have hn : name = "~" := hname hl
        rw [if_pos hn, hn, resolve_tilde]
      | cons d ds =>
        have hd : d ≠ '/' := fun e => hslash (by simp [e])
        have hn : name ≠ "~" := fun e => by simp [e] at hl
        have hst : start name current home = (home, name) := by simp [start, hl, hd]
        simp [resolve, hst, hn, hsplit, pushAll]
    · have hs : Name.startsWithTilde name = false := by simp [Name.startsWithTilde, hl, ht]
      have hst : start name current home = (current, name) := by simp [start, hl, hc, ht]
      simp [resolve, hst, hs, hsplit, pushAll]

end TreeShell
