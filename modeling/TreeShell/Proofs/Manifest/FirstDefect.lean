import TreeShell.Proofs.Manifest.ReadBack
import TreeShell.Proofs.Resolution
/-!
# The defect that is reported

An entry of a manifest has an address: the places of the directories around it, each in its list of children,
and then its own. Addresses are compared number by number, so that an entry comes before its children and these
before the entries that follow it. The builder checks the entries in this order and reports the first one that is
defective, in the directory that the names around it lead to (`Manifest.toDirectory_eq_error_iff`).
-/

namespace TreeShell

/-- An entry of a manifest where it stands. -/
structure Entry.Site where
  /-- The names of the directories around it, from the root down. -/
  above : List String
  /-- The entries before it in its list of children. -/
  earlier : List Entry
  entry : Entry

namespace Entry

/-- What stands at an address. -/
def site? (entries : List Entry) : List Nat → Option Site
  | [] => none
  | [i] => entries[i]?.map fun entry => ⟨[], entries.take i, entry⟩
  | i :: j :: more =>
    match entries[i]? with
    | some (.directory name children) =>
      (site? children (j :: more)).map fun site => { site with above := name :: site.above }
    | _ => none

namespace Site

/-- The name is not valid, or an entry before it has that name. -/
def IsDefective (site : Site) : Prop :=
  Name.isValid site.entry.name = false ∨ site.entry.name ∈ site.earlier.map Entry.name

/-- What is to be said of a defective entry in the directory at `parent`. -/
def defect (site : Site) (parent : Path) : Defect :=
  if Name.isValid site.entry.name then .duplicateEntry parent site.entry.name
  else .invalidName parent site.entry.name

end Site

/-! ## Addresses -/

/-- An address names an entry of the list, or goes on below a directory of it. -/
theorem site?_cons_eq_some {entries : List Entry} {i : Nat} {more : List Nat} {site : Site}
    (h : site? entries (i :: more) = some site) :
    ∃ entry, entries[i]? = some entry ∧
      ((more = [] ∧ site = ⟨[], entries.take i, entry⟩) ∨
        ∃ name children inner, entry = .directory name children ∧ site? children more = some inner ∧
          site = { inner with above := name :: inner.above }) := by
  cases more with
  | nil =>
    obtain ⟨entry, he, rfl⟩ := Option.map_eq_some_iff.1 h
    exact ⟨entry, he, .inl ⟨rfl, rfl⟩⟩
  | cons j more =>
    simp only [site?] at h
    split at h
    · next name children he =>
      obtain ⟨inner, hi, rfl⟩ := Option.map_eq_some_iff.1 h
      exact ⟨_, he, .inr ⟨name, children, inner, rfl, hi, rfl⟩⟩
    · cases h

theorem exists_cons_of_site? {entries : List Entry} {address : List Nat} {site : Site}
    (h : site? entries address = some site) : ∃ i more, address = i :: more := by
  cases address with
  | nil => cases h
  | cons i more => exact ⟨i, more, rfl⟩

theorem site?_inside {entries children : List Entry} {i : Nat} {name : String} {address : List Nat} {site : Site}
    (he : entries[i]? = some (.directory name children)) (h : site? children address = some site) :
    site? entries (i :: address) = some { site with above := name :: site.above } := by
  obtain ⟨j, more, rfl⟩ := exists_cons_of_site? h
  simp [site?, he, h]

/-- Where names differ, none comes again behind its place. -/
theorem name_notMem_take {entries : List Entry} (hd : (entries.map Entry.name).Nodup) {i : Nat} {entry : Entry}
    (he : entries[i]? = some entry) : entry.name ∉ (entries.take i).map Entry.name := by
  obtain ⟨hi, rfl⟩ := List.getElem?_eq_some_iff.1 he
  have hsplit : ((entries.take i).map Entry.name ++ (entries.drop i).map Entry.name).Nodup := by
    rwa [← List.map_append, List.take_append_drop]
  have hbehind : entries[i].name ∈ (entries.drop i).map Entry.name := by
    rw [← List.getElem_cons_drop hi]
    exact List.mem_cons_self
  intro hm
  exact (List.nodup_append.1 hsplit).2.2 _ hm _ hbehind rfl

/-- Where entries are well named, none is defective at any depth. -/
theorem not_isDefective_of_site? {entries : List Entry} {address : List Nat} {site : Site}
    (hw : AllWellNamed entries) (hd : (entries.map Entry.name).Nodup) (h : site? entries address = some site) :
    ¬site.IsDefective := by
  induction address generalizing entries site with
  | nil => cases h
  | cons i more ih =>
    obtain ⟨entry, he, hentry⟩ := site?_cons_eq_some h
    have hwe := (allWellNamed_iff entries).1 hw entry (List.mem_of_getElem? he)
    rcases hentry with ⟨-, rfl⟩ | ⟨name, children, inner, rfl, hi, rfl⟩
    · rintro (hv | hm)
      · exact absurd hwe.isValid (by simp [hv])
      · exact name_notMem_take hd he hm
    · obtain ⟨-, hd', hw'⟩ := hwe
      have hinner : ¬inner.IsDefective := ih hw' hd' hi
      exact hinner

/-! ## The first defective entry -/

/-- The first defective entry among those from the `n`-th on and all that lies below them. -/
structure FirstDefective (entries : List Entry) (n : Nat) (address : List Nat) (site : Site) : Prop where
  found : site? entries address = some site
  defective : site.IsDefective
  first : ∀ i more other, site? entries (i :: more) = some other → n ≤ i → List.Lex (· < ·) (i :: more) address →
    ¬other.IsDefective

theorem firstDefective_iff {entries : List Entry} {address : List Nat} {site : Site} :
    FirstDefective entries 0 address site ↔ site? entries address = some site ∧ site.IsDefective ∧
      ∀ other s, site? entries other = some s → List.Lex (· < ·) other address → ¬s.IsDefective := by
  constructor
  · rintro ⟨hfound, hdef, hfirst⟩
    refine ⟨hfound, hdef, ?_⟩
    intro other s ho hlt
    obtain ⟨i, more, rfl⟩ := exists_cons_of_site? ho
    exact hfirst i more s ho (Nat.zero_le i) hlt
  · rintro ⟨hfound, hdef, hbefore⟩
    exact ⟨hfound, hdef, fun i more other ho _ hlt => hbefore _ _ ho hlt⟩

/-- Of two addresses one comes first, so that only one defective entry is the first. -/
theorem FirstDefective.unique {entries : List Entry} {address address' : List Nat} {site site' : Site}
    (h : FirstDefective entries 0 address site) (h' : FirstDefective entries 0 address' site') : site = site' := by
  obtain ⟨hfound, hdef, hbefore⟩ := firstDefective_iff.1 h
  obtain ⟨hfound', hdef', hbefore'⟩ := firstDefective_iff.1 h'
  have hnot : ¬List.Lex (· < ·) address address' := fun hlt => hbefore' _ _ hfound hlt hdef
  have hnot' : ¬List.Lex (· < ·) address' address := fun hlt => hbefore _ _ hfound' hlt hdef'
  obtain rfl : address = address' :=
    List.lex_trichotomous (fun _ _ hge hle => Nat.le_antisymm (Nat.not_lt.1 hle) (Nat.not_lt.1 hge)) hnot' hnot
  exact Option.some.inj (hfound.symm.trans hfound')

section Steps

variable {earlier rest : List Entry} {entry : Entry}

theorem getElem?_middle : (earlier ++ entry :: rest)[earlier.length]? = some entry := by simp

theorem FirstDefective.here (h : Site.IsDefective ⟨[], earlier, entry⟩) :
    FirstDefective (earlier ++ entry :: rest) earlier.length [earlier.length] ⟨[], earlier, entry⟩ where
  found := by simp [site?]
  defective := h
  first i more other _ hi hlt := by
    rcases List.cons_lex_cons_iff.1 hlt with hlt | ⟨-, hlt⟩
    · exact absurd hlt (Nat.not_lt.2 hi)
    · exact absurd hlt List.not_lex_nil

/-- What stands at or below an entry between others. -/
theorem site?_middle {more : List Nat} {site : Site}
    (h : site? (earlier ++ entry :: rest) (earlier.length :: more) = some site) :
    (more = [] ∧ site = ⟨[], earlier, entry⟩) ∨
      ∃ name children inner, entry = .directory name children ∧ site? children more = some inner ∧
        site = { inner with above := name :: inner.above } := by
  obtain ⟨e, he, hsite⟩ := site?_cons_eq_some h
  obtain rfl : entry = e := by simpa using he
  simpa using hsite

theorem FirstDefective.inside {name : String} {children : List Entry} {address : List Nat} {site : Site}
    (hself : ¬Site.IsDefective ⟨[], earlier, .directory name children⟩) (h : FirstDefective children 0 address site) :
    FirstDefective (earlier ++ .directory name children :: rest) earlier.length (earlier.length :: address)
      { site with above := name :: site.above } where
  found := site?_inside getElem?_middle h.found
  defective := h.defective
  first i more other ho hi hlt := by
    rcases List.cons_lex_cons_iff.1 hlt with hlt | ⟨rfl, hbelow⟩
    · exact absurd hlt (Nat.not_lt.2 hi)
    · rcases site?_middle ho with ⟨-, rfl⟩ | ⟨_, _, inner, he, hinner, rfl⟩
      · exact hself
      · obtain ⟨rfl, rfl⟩ := he
        obtain ⟨j, more, rfl⟩ := exists_cons_of_site? hinner
        exact h.first j more inner hinner (Nat.zero_le j) hbelow

theorem FirstDefective.behind {address : List Nat} {site : Site}
    (hnone : ∀ more other, site? (earlier ++ entry :: rest) (earlier.length :: more) = some other → ¬other.IsDefective)
    (h : FirstDefective (earlier ++ entry :: rest) (earlier.length + 1) address site) :
    FirstDefective (earlier ++ entry :: rest) earlier.length address site where
  found := h.found
  defective := h.defective
  first i more other ho hi hlt := by
    rcases Nat.lt_or_eq_of_le hi with hi | rfl
    · exact h.first i more other ho hi hlt
    · exact hnone more other ho

end Steps

/-! ## What the builder reports -/

theorem toNode_eq_error {parent : Path} {entry : Entry} {defect : Defect} (h : toNode parent entry = .error defect) :
    ∃ name children, entry = .directory name children ∧
      addAll (parent.push name) .empty children = .error defect := by
  cases entry with
  | file name content => simp [toNode] at h
  | directory name children =>
    refine ⟨name, children, rfl, ?_⟩
    simp only [toNode] at h
    split at h
    · cases h
    · next e ha => rwa [← Except.error.inj h]

/-- How the builder fails at an entry or behind it: the entry itself is defective, or else its children fail, or else
it is added and what follows it fails. -/
theorem addAll_cons_eq_error {earlier rest : List Entry} {entry : Entry} {parent : Path} {dir : Directory}
    {defect : Defect} (hdir : dir.names = earlier.map Entry.name)
    (h : addAll parent dir (entry :: rest) = .error defect) :
    let site : Site := ⟨[], earlier, entry⟩
    (site.IsDefective ∧ defect = site.defect parent) ∨
    (¬site.IsDefective ∧ Name.isValid entry.name = true ∧
      (toNode parent entry = .error defect ∨
        ∃ node, toNode parent entry = .ok node ∧
          (dir.insert entry.name node).names = (earlier ++ [entry]).map Entry.name ∧
          addAll parent (dir.insert entry.name node) rest = .error defect)) := by
  have hcontains := dir.contains_iff entry.name
  rw [hdir] at hcontains
  simp only [addAll] at h
  by_cases hv : Name.isValid entry.name = true
  · by_cases hc : dir.contains entry.name = true
    · simp only [hv, hc, Bool.not_true, Bool.false_eq_true, if_false, if_true] at h
      exact .inl ⟨.inr (hcontains.1 hc), by simpa [Site.defect, hv] using h.symm⟩
    · have hm : entry.name ∉ earlier.map Entry.name := fun hm => hc (hcontains.2 hm)
      simp only [hv, hc, Bool.not_true, Bool.false_eq_true, if_false] at h
      refine .inr ⟨by simp [Site.IsDefective, hv, hm], hv, ?_⟩
      split at h
      · next node hn =>
        have hnames : (dir.insert entry.name node).names = (earlier ++ [entry]).map Entry.name := by
          rw [Directory.names_insert, hdir, if_neg hm]
          simp
        exact .inr ⟨node, hn, hnames, h⟩
      · next e hn => exact .inl (by rw [hn, Except.error.inj h])
  · simp only [hv, Bool.not_false, if_true] at h
    exact .inl ⟨.inl (by simpa using hv), by simpa [Site.defect, hv] using h.symm⟩

/-- What the builder reports is the first defective entry among those that it was given. -/
theorem firstDefective_of_addAll : ∀ (entries earlier : List Entry) (parent : Path) (dir : Directory) (defect : Defect),
    dir.names = earlier.map Entry.name → addAll parent dir entries = .error defect →
    ∃ address site, FirstDefective (earlier ++ entries) earlier.length address site ∧
      ∃ place : Path, place.segments = parent.segments ++ site.above ∧ defect = site.defect place
  | [], _, _, _, _, _, h => by simp [addAll] at h
  | entry :: rest, earlier, parent, dir, defect, hdir, h => by
    rcases addAll_cons_eq_error hdir h with ⟨hself, rfl⟩ | ⟨hself, hv, hn | ⟨node, hn, hnames, hrest⟩⟩
    · exact ⟨_, _, .here hself, parent, by simp, rfl⟩
    · -- The defect lies below the entry, in the directory that its name leads to.
      obtain ⟨name, children, rfl, hchildren⟩ := toNode_eq_error hn
      obtain ⟨address, site, hfirst, place, hplace, hdefect⟩ :=
        firstDefective_of_addAll children [] (parent.push name) .empty defect rfl hchildren
      have hname : IsSegment name := Name.isSegment_of_isValid hv
      rw [Path.segments_push_of_isSegment parent hname, List.append_assoc] at hplace
      exact ⟨_, _, hfirst.inside hself, place, hplace, hdefect⟩
    · -- Neither the entry nor what is below it is defective, so the defect lies behind it.
      obtain ⟨address, site, hfirst, hplace⟩ :=
        firstDefective_of_addAll rest (earlier ++ [entry]) parent _ defect hnames hrest
      rw [List.append_assoc, List.singleton_append, List.length_append, List.length_singleton] at hfirst
      refine ⟨address, site, hfirst.behind ?_, hplace⟩
      intro more other ho
      rcases site?_middle ho with ⟨-, rfl⟩ | ⟨name, children, inner, rfl, hi, rfl⟩
      · exact hself
      · obtain ⟨⟨-, hd, hw⟩, -⟩ := (toNode_eq_ok_iff _ parent node hv).1 hn
        have hinner : ¬inner.IsDefective := not_isDefective_of_site? hw hd hi
        exact hinner

end Entry

/-! ## Main theorem -/

/-- A manifest is refused exactly where an entry of it is defective. What is reported is the first defective entry,
an entry before its children and these before the entries that follow it: that its name is not valid or, if it is,
that an entry before it has it, in the directory that the names of the directories around it lead to. -/
theorem Manifest.toDirectory_eq_error_iff (m : Manifest) (defect : Defect) :
    m.toDirectory = .error defect ↔
      ∃ address site, Entry.site? m.children address = some site ∧ site.IsDefective ∧
        (∀ other s, Entry.site? m.children other = some s → List.Lex (· < ·) other address → ¬s.IsDefective) ∧
        ∃ parent : Path, parent.segments = site.above ∧
          defect = if Name.isValid site.entry.name then .duplicateEntry parent site.entry.name
            else .invalidName parent site.entry.name := by
  constructor
  · intro h
    obtain ⟨address, site, hfirst, parent, hparent, hdefect⟩ :=
      Entry.firstDefective_of_addAll m.children [] .root .empty defect rfl h
    obtain ⟨hsite, hdef, hbefore⟩ := Entry.firstDefective_iff.1 hfirst
    exact ⟨address, site, hsite, hdef, hbefore, parent, by simpa using hparent, hdefect⟩
  · rintro ⟨address, site, hsite, hdef, hbefore, parent, hparent, hdefect⟩
    cases h : m.toDirectory with
    | ok dir =>
      -- A manifest that is accepted has no defective entry.
      obtain ⟨hd, hw⟩ := m.accepted_iff_wellNamed.1 ⟨dir, h⟩
      exact absurd hdef (Entry.not_isDefective_of_site? hw hd hsite)
    | error e =>
      obtain ⟨address', site', hfirst', parent', hparent', rfl⟩ :=
        Entry.firstDefective_of_addAll m.children [] .root .empty e rfl h
      obtain rfl : site = site' := (Entry.firstDefective_iff.2 ⟨hsite, hdef, hbefore⟩).unique hfirst'
      obtain rfl : parent = parent' := Path.ext (hparent.trans (by simpa using hparent'.symm))
      rw [hdefect, Entry.Site.defect]

/-- A name that comes twice two levels down is reported before one with a blank and one that comes twice at the top. -/
theorem Manifest.toDirectory_eq_error_iff_nested :
    let m : Manifest := ⟨[.directory "a" [.file "x" "", .directory "b" [.file "n" "", .file "n" "again"]],
      .file "my notes" "", .file "a" ""]⟩
    m.toDirectory = .error (.duplicateEntry (.ofTokens ["a", "b"]) "n") ∧
      ∃ address site, Entry.site? m.children address = some site ∧ site.IsDefective ∧
        ¬List.Lex (· < ·) [0, 1, 1] address ∧ ¬List.Lex (· < ·) [1] address ∧
        site.above = ["a", "b"] ∧ site.entry.name = "n" := by
  intro m
  have hm : m.toDirectory = .error (.duplicateEntry (.ofTokens ["a", "b"]) "n") := rfl
  obtain ⟨address, site, hsite, hdef, hfirst, parent, hparent, hdefect⟩ := (m.toDirectory_eq_error_iff _).1 hm
  have hinner : ¬List.Lex (· < ·) [0, 1, 1] address := fun hlt =>
    hfirst [0, 1, 1] ⟨["a", "b"], [.file "n" ""], .file "n" "again"⟩ rfl hlt (.inr (by simp [Entry.name]))
  have htop : ¬List.Lex (· < ·) [1] address := fun hlt =>
    hfirst [1] ⟨[], [m.children[0]], .file "my notes" ""⟩ rfl hlt (.inl (by decide +kernel))
  refine ⟨hm, address, site, hsite, hdef, hinner, htop, ?_⟩
  split at hdefect
  · obtain ⟨rfl, hname⟩ := Defect.duplicateEntry.inj hdefect
    exact ⟨hparent.symm, hname.symm⟩
  · cases hdefect

end TreeShell
