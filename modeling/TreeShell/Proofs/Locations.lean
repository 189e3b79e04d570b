import TreeShell.Proofs.Expansion
import TreeShell.Proofs.Json
import TreeShell.Proofs.Names
import TreeShell.Proofs.Navigation
/-!
# What is written of a location

A location is written as a text, alone or in JSON, and that text leads back to it exactly where no name holds a
slash (`Path.text_round_trip`). The prompt shows it as seen from home, in one of three forms, and each is read as the
form of a typed path that leads there (`Session.resolve_shownPath`). A session whose home can be typed stands only
where this is so (`Reachable.typable`). What it shows of its location then takes every session over its tree and with
its home there (`shown_location_leads_back`).
-/

namespace TreeShell

open Text

/-! ## The text of a location -/

/-- A text in JSON reads back as it was. -/
theorem Json.read?_quotedText (s : String) : Json.read? (Json.quotedText s) = some (.text s) := by
  have h := Json.read?_pretty (.text s) (by simp : ∀ c ∈ "".toList, Json.Token.isSpace c = true)
  rwa [String.append_empty] at h

namespace Path

/-- The locations that can be made. -/
inductive Built : Path → Prop
  | root : Built root
  | ofTokens (tokens : List String) : Built (ofTokens tokens)
  | ofText (raw : String) : Built (ofText raw)
  | resolve {current home} (hc : Built current) (hh : Built home) (raw : String) : Built (resolve raw current home)
  | push {p} (h : Built p) (name : String) : Built (p.push name)
  | parent {p} (h : Built p) : Built p.parent

theorem ofTokens_segments (p : Path) : ofTokens p.segments = p := by
  ext1
  rw [ofTokens, segments_pushAll p.isSegment, segments_root, List.nil_append]

/-- Proper names are all that it takes to make a location. -/
theorem built (p : Path) : p.Built := by
  rw [← ofTokens_segments p]
  exact .ofTokens p.segments

theorem plain_ofText (raw : String) : (ofText raw).Plain := slash_notMem_of_mem_ofText raw

theorem ofText_text_eq_iff (p : Path) : ofText p.text = p ↔ p.Plain := by
  constructor
  · intro h
    rw [← h]
    exact plain_ofText p.text
  · exact ofText_text

/-- Every location that can be made is read back from its text, and so from its JSON, exactly where no name holds a
slash. One that was read from a text is, and two that are have one text only if they are the same. -/
theorem text_round_trip :
    (∀ p : Path, p.Built ∧
      (ofText p.text = p ↔ ∀ name ∈ p.segments, '/' ∉ name.toList) ∧
      (Json.read? (Json.quotedText p.text)).bind Document.asPath? = some (ofText p.text)) ∧
    (∀ raw : String, ofText (ofText raw).text = ofText raw) ∧
    ∀ p q : Path, (∀ name ∈ p.segments, '/' ∉ name.toList) → (∀ name ∈ q.segments, '/' ∉ name.toList) →
      (p.text = q.text ↔ p = q) := by
  refine ⟨fun p => ⟨p.built, p.ofText_text_eq_iff, ?_⟩, fun raw => ofText_text (plain_ofText raw), ?_⟩
  · rw [Json.read?_quotedText]
    rfl
  · intro p q hp hq
    constructor
    · exact eq_of_text_eq hp hq
    · rintro rfl
      rfl

/-- A name that was pushed with its slash comes back as two, and its text is that of the two. -/
theorem text_round_trip_slash :
    let whole := root.push "a/b"
    let parts := ofTokens ["a", "b"]
    whole.text = parts.text ∧ whole.Built ∧ ofText whole.text ≠ whole ∧ ofText parts.text = parts ∧
      (parts.text = (ofText whole.text).text ↔ parts = ofText whole.text) := by
  intro whole parts
  obtain ⟨hback, -, hinj⟩ := text_round_trip
  have hparts : ∀ name ∈ parts.segments, '/' ∉ name.toList := by decide +kernel
  have hwhole : "a/b" ∈ whole.segments := by decide +kernel
  refine ⟨by decide +kernel, (hback whole).1, ?_, (hback parts).2.1.2 hparts, hinj _ _ hparts (plain_ofText _)⟩
  intro h
  exact (hback whole).2.1.1 h "a/b" hwhole (by decide +kernel)

/-- Wherever it is typed, the text of a location leads there. -/
theorem resolve_text {p : Path} (h : p.Plain) (current home : Path) : resolve p.text current home = p := by
  have hslash : p.text.toList.head? = some '/' := by
    rw [text_eq]
    simp
  rw [resolve_of_head_slash hslash, ofText_text h]

theorem below?_eq_some_iff (p base : Path) (rest : List String) :
    p.below? base = some rest ↔ p.segments = base.segments ++ rest := by
  unfold below?
  constructor
  · intro h
    split at h
    · next hb =>
      obtain ⟨more, hmore⟩ := List.isPrefixOf_iff_prefix.1 hb
      rw [← hmore, List.drop_left] at h
      rw [← hmore, Option.some.inj h]
    · cases h
  · intro h
    have hb : base.segments.isPrefixOf p.segments = true := List.isPrefixOf_iff_prefix.2 ⟨rest, h.symm⟩
    rw [if_pos hb, h, List.drop_left]

end Path

/-! ## What the prompt shows -/

namespace Session

/-- The three forms in which a prompt shows a location. -/
theorem shownPath_cases (s : Session) :
    (s.shownPath = "~" ∧ s.current = s.home) ∨
    (∃ rest, rest ≠ [] ∧ s.current.segments = s.home.segments ++ rest ∧ s.shownPath = "~/" ++ join "/" rest) ∨
    s.shownPath = s.current.text := by
  unfold shownPath
  split
  · next h =>
    rw [Path.below?_eq_some_iff, List.append_nil] at h
    exact .inl ⟨rfl, Path.ext h⟩
  · next rest hne h =>
    exact .inr (.inl ⟨rest, hne, (Path.below?_eq_some_iff ..).1 h, rfl⟩)
  · exact .inr (.inr rfl)

/-- What a prompt shows of a location leads there from everywhere in a session with this home. -/
theorem resolve_shownPath {s : Session} (hc : s.current.Plain) (place : Path) :
    Path.resolve s.shownPath place s.home = s.current := by
  rcases s.shownPath_cases with ⟨hs, hcur⟩ | ⟨rest, hne, hcur, hs⟩ | hs <;> rw [hs]
  · rw [Path.resolve_tilde, hcur]
  · -- What stands behind the tilde and its slash is followed from home.
    have hmem : ∀ name ∈ rest, name ∈ s.current.segments := fun name hm => by simp [hcur, hm]
    have hsplit : split '/' (join "/" rest) = rest := split_join hne fun name hm => hc name (hmem name hm)
    have htilde : "~/" ++ join "/" rest = "~" ++ "/" ++ join "/" rest := rfl
    rw [htilde, Path.resolve_append_slash (by decide), Path.resolve_tilde, hsplit]
    ext1
    rw [Path.segments_pushAll fun name hm => s.current.isSegment name (hmem name hm), hcur]
  · exact Path.resolve_text hc place s.home

/-- Two sessions with one home are told apart by what their prompts show. -/
theorem shownPath_eq_iff {s s' : Session} (hc : s.current.Plain) (hhome : s'.home = s.home) (hc' : s'.current.Plain) :
    s.shownPath = s'.shownPath ↔ s.current = s'.current := by
  constructor
  · intro h
    rw [← resolve_shownPath hc .root, h, ← hhome]
    exact resolve_shownPath hc' .root
  · intro h
    rw [shownPath, shownPath, h, hhome]

end Session

/-! ## Locations that can be typed -/

/-- No name holds a slash or a blank. -/
def Path.Typable (p : Path) : Prop := ∀ name ∈ p.segments, ∀ c ∈ name.toList, c ≠ '/' ∧ isBlank c = false

namespace Path.Typable

theorem plain {p : Path} (h : p.Typable) : p.Plain := by
  intro name hn hslash
  exact (h name hn '/' hslash).1 rfl

theorem not_blank {p : Path} (h : p.Typable) : ∀ name ∈ p.segments, ∀ c ∈ name.toList, isBlank c = false :=
  fun name hn c hc => (h name hn c hc).2

/-- A word leads from where names can be typed to where they can. -/
theorem resolve {current home : Path} (hc : current.Typable) (hh : home.Typable) {raw : String}
    (hraw : IsWord raw.toList) : (Path.resolve raw current home).Typable := by
  intro name hn
  rcases mem_segments_resolve hn with h | h | ⟨hslash, hchars⟩
  · exact hc name h
  · exact hh name h
  · intro c hm
    exact ⟨fun he => hslash (he ▸ hm), hraw.2 c (hchars c hm)⟩

end Path.Typable

theorem Session.isWord_shownPath {s : Session} (hc : s.current.Typable) : IsWord s.shownPath.toList := by
  rcases s.shownPath_cases with ⟨hs, -⟩ | ⟨rest, -, hcur, hs⟩ | hs <;> rw [hs]
  · exact ⟨by simp, by simp [isBlank, inRanges, blankRanges]⟩
  · have hrest : ∀ name ∈ rest, ∀ c ∈ name.toList, isBlank c = false :=
      fun name hm => hc.not_blank name (by simp [hcur, hm])
    refine ⟨by simp, ?_⟩
    intro c hm
    have hm : c = '~' ∨ c ∈ ("/" ++ join "/" rest).toList := by simpa using hm
    rcases hm with rfl | hm
    · decide
    · exact (isWord_slash_join hrest).2 c hm
  · rw [Path.text_eq]
    exact isWord_slash_join hc.not_blank

namespace Interpreter

theorem typable_evaluate {it : Interpreter} (hh : it.session.home.Typable) (hc : it.session.current.Typable)
    (raw : String) : (it.evaluate raw).next.session.current.Typable := by
  obtain ⟨path, hn, hpath⟩ := it.evaluate_next raw
  rw [hn]
  rcases hpath with rfl | rfl | ⟨target, ht, -, rfl, -⟩
  · exact hc
  · exact hh
  · exact hc.resolve hh (isWord_of_mem_tokens ht)

/-- A session whose home can be typed stands only at locations that can be typed. -/
theorem Reachable.typable {it : Interpreter} (hr : it.Reachable) (hh : it.session.home.Typable) :
    it.session.current.Typable := by
  induction hr with
  | opened h =>
    obtain ⟨-, rfl⟩ := (opened_eq_ok_iff ..).1 h
    exact hh
  | line _ raw ih =>
    rw [evaluate_home] at hh
    exact typable_evaluate hh (ih hh) raw

theorem evaluate_pwd (it : Interpreter) {raw : String} {args : List String} (ht : tokens raw = "pwd" :: args) :
    (it.evaluate raw).next = it ∧ (it.evaluate raw).evaluation.output = [it.session.current.text] := by
  have hi : it.invoke ⟨"pwd", args⟩ = ⟨it.session, .ok { lines := [it.session.current.text] }⟩ :=
    it.invoke_name .pwd args
  obtain ⟨hn, he⟩ := reply_of_invoke hi (it.prompt ++ " " ++ trimmed raw)
  rw [evaluate_of_tokens ht, hn, he]
  exact ⟨rfl, rfl⟩

/-- A word that leads to a directory takes a session there. -/
theorem Placed.cd_to {it : Interpreter} (hp : it.Placed) {target : String} (hw : IsWord target.toList) {path : Path}
    (hres : it.resolve target = path) (hd : it.tree.isDirectory path = true) :
    it.Succeeds ("cd " ++ target) ∧
      (it.evaluate ("cd " ++ target)).next = { it with session := it.session.moveTo path } ∧
      (it.evaluate ("cd " ++ target)).evaluation.output = [] := by
  subst hres
  obtain ⟨entries, hl⟩ := (Tree.isDirectory_iff ..).1 hd
  exact ⟨(hp.succeeds_cd_iff (tokens_cd hw)).2 ⟨entries, hl⟩, hp.cd_leads hl _ _ (tokens_cd hw)⟩

/-! ## Main theorem -/

/-- What a prompt shows of a location leads there from everywhere in a session with that home, and its text from
everywhere in any session, if no name of the location holds a slash. So sessions with one home show the same only
where they stand at the same location. Where home has no slash and no blank in a name, a session can be sent to where
another one over its tree and with its home stands, by what the prompt of that one shows and by what its `pwd` prints. -/
theorem shown_location_leads_back :
    (∀ s : Session, (∀ name ∈ s.current.segments, '/' ∉ name.toList) →
      (∀ place, Path.resolve s.shownPath place s.home = s.current) ∧
      (∀ place home, Path.resolve s.current.text place home = s.current) ∧
      ∀ s' : Session, s'.home = s.home → (∀ name ∈ s'.current.segments, '/' ∉ name.toList) →
        (s.shownPath = s'.shownPath ↔ s.current = s'.current)) ∧
    ∀ it : Interpreter, it.Reachable →
      (∀ name ∈ it.session.home.segments, ∀ c ∈ name.toList, c ≠ '/' ∧ isBlank c = false) →
      (∀ raw args, tokens raw = "pwd" :: args → (it.evaluate raw).evaluation.output = [it.session.current.text]) ∧
      ∀ there : Interpreter, there.Reachable → there.tree = it.tree → there.session.home = it.session.home →
        ∀ target ∈ [it.session.shownPath, it.session.current.text],
          there.Succeeds ("cd " ++ target) ∧
            (there.evaluate ("cd " ++ target)).next =
              { there with session := there.session.moveTo it.session.current } ∧
            (there.evaluate ("cd " ++ target)).evaluation.output = [] := by
  constructor
  · intro s hc
    exact ⟨Session.resolve_shownPath hc, Path.resolve_text hc, fun _ => Session.shownPath_eq_iff hc⟩
  · intro it hr hh
    have hhome : it.session.home.Typable := hh
    have hc := hr.typable hhome
    refine ⟨fun raw args ht => (it.evaluate_pwd ht).2, ?_⟩
    intro there hr' htree hhome' target ht
    have hd : there.tree.isDirectory it.session.current = true := htree ▸ hr.placed.current
    obtain rfl | rfl : target = it.session.shownPath ∨ target = it.session.current.text := by simpa using ht
    · refine hr'.placed.cd_to (Session.isWord_shownPath hc) ?_ hd
      rw [Interpreter.resolve, hhome']
      exact Session.resolve_shownPath hc.plain _
    · have hword : IsWord it.session.current.text.toList := by
        rw [Path.text_eq]
        exact isWord_slash_join hc.not_blank
      exact hr'.placed.cd_to hword (Path.resolve_text hc.plain _ _) hd

/-- One user stands below home in a directory whose name starts with a tilde, another one at the root. -/
theorem shown_location_leads_back_tilde :
    let tree : Tree := ⟨⟨[("home", .directory [("~srv", .directory [])])]⟩⟩
    let home := Path.ofTokens ["home"]
    let it := (⟨tree, "recruit", "dcib", .opened home⟩ : Interpreter).after ["cd ~srv"]
    let there := (⟨tree, "agent", "dcib", .opened home⟩ : Interpreter).after ["cd /"]
    it.Reachable ∧ there.Reachable ∧ there.session.current = .root ∧
      (∀ name ∈ it.session.home.segments, ∀ c ∈ name.toList, c ≠ '/' ∧ isBlank c = false) ∧
      it.session.shownPath = "~/~srv" ∧ there.Succeeds ("cd " ++ "~/~srv") ∧
      (there.evaluate ("cd " ++ "~/~srv")).next.session.current = it.session.current := by
  intro tree home it there
  have ho : ∀ user, opened tree user "dcib" home = .ok ⟨tree, user, "dcib", .opened home⟩ := fun _ => rfl
  have hr : it.Reachable := (Reachable.opened (ho "recruit")).after _
  have hr' : there.Reachable := (Reachable.opened (ho "agent")).after _
  have hhome : it.session.home = home := (after_kept _ _).2.2.2.1
  have hnames : home.segments = ["home"] := by decide +kernel
  have hh : ∀ name ∈ it.session.home.segments, ∀ c ∈ name.toList, c ≠ '/' ∧ isBlank c = false := by
    rw [hhome, hnames]
    simp [isBlank, inRanges, blankRanges]
  have hshown : it.session.shownPath = "~/~srv" := by decide +kernel
  obtain ⟨-, hback⟩ := shown_location_leads_back
  obtain ⟨-, hthere⟩ := hback it hr hh
  obtain ⟨hs, hn, -⟩ := hthere there hr' rfl rfl "~/~srv" (by simp [hshown])
  exact ⟨hr, hr', by decide +kernel, hh, hshown, hs, congrArg (fun i => i.session.current) hn⟩

end Interpreter

end TreeShell
