import TreeShell.Proofs.Manifest
import TreeShell.Proofs.Names
import TreeShell.Proofs.Targets
/-!
# How the nodes of a tree are reached

In a tree from a manifest, a slash and the names of a chain of entries are one word, and they name exactly
the node at the end of the chain (`nodes_addressed`). A single listed name is read from the current
location unless it starts with a tilde; `listed_name_usable_iff` says exactly when typing it as it is
listed reaches the entry.
-/

namespace TreeShell.Interpreter

open Text

/-! ## Chains behind a slash -/

section Built

variable {m : Manifest} {dir : Directory} {it : Interpreter}

/-- A look-up finds what lies under the names of its path. -/
theorem lookup_eq_ok_iff_under (hm : m.toDirectory = .ok dir) (ht : it.tree = ⟨dir⟩) (path : Path) (node : Node) :
    it.tree.lookup path = .ok node ↔ dir.toNode.Under path.segments node := by
  rw [Tree.lookup_eq_ok_iff, ht]
  exact Node.walk?_eq_some_iff (Manifest.wellNamed_toNode hm) path.segments node

/-- Behind a slash, a chain is one word and names the node at its end. -/
theorem lookup_slash_join (hm : m.toDirectory = .ok dir) (ht : it.tree = ⟨dir⟩) {chain : List String} {node : Node}
    (h : dir.toNode.Under chain node) :
    IsWord ("/" ++ join "/" chain).toList ∧ (it.resolve ("/" ++ join "/" chain)).segments = chain ∧
      it.tree.lookup (it.resolve ("/" ++ join "/" chain)) = .ok node := by
  have hv := h.isValid (Manifest.wellNamed_toNode hm)
  have hs : (it.resolve ("/" ++ join "/" chain)).segments = chain :=
    Path.segments_resolve_slash_join
      (fun n hn => ⟨Name.isSegment_of_isValid (hv n hn), Name.slash_notMem_of_isValid (hv n hn)⟩) _ _
  have hword := isWord_slash_join fun n hn => Name.isBlank_of_isValid (hv n hn)
  exact ⟨hword, hs, (lookup_eq_ok_iff_under hm ht _ _).2 (hs.symm ▸ h)⟩

theorem evaluate_cat_chain (hm : m.toDirectory = .ok dir) (ht : it.tree = ⟨dir⟩) {chain : List String}
    {content : String} (h : dir.toNode.Under chain (.file content)) :
    (it.evaluate ("cat " ++ ("/" ++ join "/" chain))).evaluation.output = [content] := by
  obtain ⟨hw, -, hl⟩ := lookup_slash_join hm ht h
  rw [(evaluate_cat it (tokens_cat hw)).2, hl]

theorem evaluate_cd_chain (hp : it.Placed) (hm : m.toDirectory = .ok dir) (ht : it.tree = ⟨dir⟩)
    {chain : List String} {entries : List (String × Node)} (h : dir.toNode.Under chain (.directory entries)) :
    (it.evaluate ("cd " ++ ("/" ++ join "/" chain))).next.session.current.segments = chain ∧
      (it.evaluate ("cd " ++ ("/" ++ join "/" chain))).evaluation.output = [] := by
  obtain ⟨hw, hs, hl⟩ := lookup_slash_join hm ht h
  obtain ⟨hc, ho⟩ := evaluate_cd hp (tokens_cd hw)
  rw [hl] at hc ho
  exact ⟨hc ▸ hs, ho⟩

end Built

/-! ## Chains as addresses -/

/-- In a tree from a manifest, which holds the manifest's own entries, every node is reached from every
state of every session by the names that lead to it: a file is shown, and a directory is moved to. So lines
lead from any state to the chains of directories and nowhere else. -/
theorem nodes_addressed (m : Manifest) (dir : Directory) (hm : m.toDirectory = .ok dir) (it : Interpreter)
    (hr : it.Reachable) (ht : it.tree = ⟨dir⟩) :
    dir.entries = Entry.nodes m.children ∧
    (∀ chain content, dir.toNode.Under chain (.file content) →
      (it.evaluate ("cat /" ++ join "/" chain)).evaluation.output = [content]) ∧
    (∀ chain entries, dir.toNode.Under chain (.directory entries) →
      (it.evaluate ("cd /" ++ join "/" chain)).next.session.current.segments = chain ∧
        (it.evaluate ("cd /" ++ join "/" chain)).evaluation.output = []) ∧
    ∀ chain, (∃ lines, (it.after lines).session.current.segments = chain) ↔
      ∃ entries, dir.toNode.Under chain (.directory entries) := by
  have hcat : ∀ s : String, "cat /" ++ s = "cat " ++ ("/" ++ s) := by
    intro s
    rw [← String.append_assoc]
    rfl
  have hcd : ∀ s : String, "cd /" ++ s = "cd " ++ ("/" ++ s) := by
    intro s
    rw [← String.append_assoc]
    rfl
  refine ⟨((m.toDirectory_eq_ok_iff dir).1 hm).2, ?_, ?_, fun chain => ⟨?_, ?_⟩⟩
  · intro chain content h
    rw [hcat]
    exact evaluate_cat_chain hm ht h
  · intro chain entries h
    rw [hcd]
    exact evaluate_cd_chain hr.placed hm ht h
  · -- No run leaves the directories of the tree, and a look-up finds them only under their chain.
    rintro ⟨lines, rfl⟩
    have ht' : (it.after lines).tree = ⟨dir⟩ := (it.after_kept lines).1.trans ht
    obtain ⟨entries, hl⟩ := (Tree.isDirectory_iff ..).1 (hr.after lines).placed.current
    exact ⟨entries, (lookup_eq_ok_iff_under hm ht' _ _).1 hl⟩
  · -- One line is enough.
    rintro ⟨entries, h⟩
    refine ⟨["cd " ++ ("/" ++ join "/" chain)], ?_⟩
    rw [after_cons, after_nil]
    exact (evaluate_cd_chain hr.placed hm ht h).1

/-- A directory whose name starts with a tilde, in a session that stands elsewhere. -/
theorem nodes_addressed_tilde :
    let m : Manifest := ⟨[.directory "home" [], .directory "~srv" [.file "note" "read me\n"]]⟩
    ∃ (dir : Directory) (it : Interpreter), m.toDirectory = .ok dir ∧ it.Reachable ∧ it.tree = ⟨dir⟩ ∧
      dir.toNode.Under ["~srv", "note"] (.file "read me\n") ∧
      (it.evaluate ("cat /" ++ join "/" ["~srv", "note"])).evaluation.output = ["read me\n"] := by
  intro m
  let entries : List (String × Node) :=
    [("home", .directory []), ("~srv", .directory [("note", .file "read me\n")])]
  have hm : m.toDirectory = .ok ⟨entries⟩ := rfl
  have ho : opened ⟨⟨entries⟩⟩ "recruit" "dcib" (.ofTokens ["home"]) =
      .ok ⟨⟨⟨entries⟩⟩, "recruit", "dcib", .opened (.ofTokens ["home"])⟩ := rfl
  have hr := Reachable.opened ho
  have hu : Node.Under (.directory entries) ["~srv", "note"] (.file "read me\n") :=
    .entry (.tail _ (.head _)) (.entry (.head _) (.here _))
  obtain ⟨-, hcat, -⟩ := nodes_addressed m ⟨entries⟩ hm _ hr rfl
  exact ⟨_, _, hm, hr, rfl, hu, hcat _ _ hu⟩

/-! ## Listed names -/

section Listed

variable {m : Manifest} {dir : Directory} {it : Interpreter} {here : Directory} {name : String} {child : Node}

/-- What lies beside the location has a valid name and is found by it. -/
theorem lookup_listed (hm : m.toDirectory = .ok dir) (ht : it.tree = ⟨dir⟩)
    (hd : it.tree.directory it.session.current = .ok here) (hc : (name, child) ∈ here.entries) :
    Name.isValid name = true ∧ it.tree.lookup (it.session.current.push name) = .ok child := by
  have hl := (Tree.directory_eq_ok_iff ..).1 hd
  have hw := ((lookup_eq_ok_iff_under hm ht _ _).1 hl).wellNamed (Manifest.wellNamed_toNode hm)
  cases hw with
  | directory hnodup hv _ =>
    have hname := hv name child hc
    refine ⟨hname, (Tree.lookup_push hl (Name.isSegment_of_isValid hname) child).2 ?_⟩
    exact (Directory.get?_eq_some_iff hnodup name child).2 hc

theorem resolve_of_not_tilde (hv : Name.isValid name = true) (h : Name.startsWithTilde name = false) :
    it.resolve name = it.session.current.push name := by
  simp [resolve, Path.resolve_of_isValid hv, h]

theorem resolve_of_tilde (hv : Name.isValid name = true) (h : Name.startsWithTilde name = true) (hne : name ≠ "~") :
    it.resolve name = it.session.home.push name := by
  simp [resolve, Path.resolve_of_isValid hv, h, hne]

/-- `cd` and a listed directory's name lead into it, unless the name starts with a tilde and home lies
elsewhere. -/
theorem cd_listed_iff (hp : it.Placed) (hm : m.toDirectory = .ok dir) (ht : it.tree = ⟨dir⟩)
    (hd : it.tree.directory it.session.current = .ok here) {entries : List (String × Node)}
    (hc : (name, .directory entries) ∈ here.entries) :
    (it.evaluate ("cd " ++ name)).next.session.current = it.session.current.push name ↔
      Name.startsWithTilde name = false ∨
        it.session.home = if name = "~" then it.session.current.push name else it.session.current := by
  obtain ⟨hv, hl⟩ := lookup_listed hm ht hd hc
  have hseg := Name.isSegment_of_isValid hv
  rw [(evaluate_cd hp (tokens_cd (Name.isWord_of_isValid hv))).1]
  by_cases htilde : Name.startsWithTilde name = true
  · by_cases hone : name = "~"
    · -- A lone tilde leads home.
      obtain ⟨hr, es, hh⟩ := hp.lookup_tilde
      rw [← hone] at hr
      rw [hr, hh, htilde, if_pos hone]
      simp
    · -- The name is looked up in home.
      rw [resolve_of_tilde hv htilde hone]
      simp only [htilde, hone, if_false, Bool.true_eq_false, false_or]
      split
      · exact Path.push_left_inj hseg
      · next hno =>
        -- At home the look-up would have found the listed entry.
        refine ⟨fun he => absurd he.symm (Path.push_ne_self _ hseg), fun he => ?_⟩
        exact absurd (he ▸ hl) (hno entries)
  · rw [resolve_of_not_tilde hv (by simpa using htilde), hl]
    simp [htilde]

/-- `cat` and a listed file's name show it, unless the name starts with a tilde: then they show a file of
that name in home, and a line that says that there is none. -/
theorem cat_listed_iff (hp : it.Placed) (hm : m.toDirectory = .ok dir) (ht : it.tree = ⟨dir⟩)
    (hd : it.tree.directory it.session.current = .ok here) {content : String}
    (hc : (name, .file content) ∈ here.entries) :
    (it.evaluate ("cat " ++ name)).evaluation.output = [content] ↔
      Name.startsWithTilde name = false ∨
        (name ≠ "~" ∧ it.tree.lookup (it.session.home.push name) = .ok (.file content)) ∨
        (content = "cat: " ++ name ++ ": No such file" ∧
          (name = "~" ∨ ∀ text, it.tree.lookup (it.session.home.push name) ≠ .ok (.file text))) := by
  obtain ⟨hv, hl⟩ := lookup_listed hm ht hd hc
  rw [(evaluate_cat it (tokens_cat (Name.isWord_of_isValid hv))).2]
  by_cases htilde : Name.startsWithTilde name = true
  · by_cases hone : name = "~"
    · -- A lone tilde is home, so `cat` refuses it.
      obtain ⟨hr, es, hh⟩ := hp.lookup_tilde
      rw [← hone] at hr
      rw [hr, hh, htilde]
      simp [hone, @eq_comm _ content]
    · rw [resolve_of_tilde hv htilde hone]
      simp only [htilde, hone, Bool.true_eq_false, false_or, ne_eq, not_false_eq_true, true_and]
      split
      · next text hf => simp [hf]
      · next hno =>
        have hnone : ∀ text, it.tree.lookup (it.session.home.push name) ≠ .ok (.file text) := hno
        simp [hnone, @eq_comm _ content]
  · rw [resolve_of_not_tilde hv (by simpa using htilde), hl]
    simp [htilde]

end Listed

/-- A listed name is usable as it is listed exactly where it does not start with a tilde, or where reading
it from home makes no difference: for `cd` because the lone tilde is home, or the longer name is typed at
home; for `cat` because home has a file of that name and text, or has none while the text is the line that
says so. -/
theorem listed_name_usable_iff (m : Manifest) (dir : Directory) (hm : m.toDirectory = .ok dir) (it : Interpreter)
    (hr : it.Reachable) (ht : it.tree = ⟨dir⟩) (here : Directory)
    (hd : it.tree.directory it.session.current = .ok here) (name : String) :
    (∀ entries, (name, Node.directory entries) ∈ here.entries →
      ((it.evaluate ("cd " ++ name)).next.session.current = it.session.current.push name ↔
        Name.startsWithTilde name = false ∨
          it.session.home = if name = "~" then it.session.current.push name else it.session.current)) ∧
    ∀ content, (name, Node.file content) ∈ here.entries →
      ((it.evaluate ("cat " ++ name)).evaluation.output = [content] ↔
        Name.startsWithTilde name = false ∨
          (name ≠ "~" ∧ it.tree.lookup (it.session.home.push name) = .ok (.file content)) ∨
          (content = "cat: " ++ name ++ ": No such file" ∧
            (name = "~" ∨ ∀ text, it.tree.lookup (it.session.home.push name) ≠ .ok (.file text)))) := by
  constructor
  · intro entries hc
    exact cd_listed_iff hr.placed hm ht hd hc
  · intro content hc
    exact cat_listed_iff hr.placed hm ht hd hc

/-- At home a longer name that starts with a tilde is usable. -/
theorem listed_name_usable_at_home :
    let m : Manifest := ⟨[.directory "~srv" []]⟩
    ∃ (dir here : Directory) (it : Interpreter), m.toDirectory = .ok dir ∧ it.Reachable ∧ it.tree = ⟨dir⟩ ∧
      it.tree.directory it.session.current = .ok here ∧ ("~srv", Node.directory []) ∈ here.entries ∧
      (it.evaluate "cd ~srv").next.session.current = it.session.current.push "~srv" := by
  intro m
  have hm : m.toDirectory = .ok ⟨[("~srv", .directory [])]⟩ := rfl
  have hr := reachable_root ⟨⟨[("~srv", .directory [])]⟩⟩ "recruit" "dcib"
  have hc : ("~srv", Node.directory []) ∈ [("~srv", Node.directory [])] := .head _
  refine ⟨_, ⟨[("~srv", .directory [])]⟩, _, hm, hr, rfl, rfl, hc, ?_⟩
  exact ((listed_name_usable_iff m _ hm _ hr rfl _ rfl "~srv").1 [] hc).2 (.inr rfl)

/-- A directory listed as a lone tilde is not entered under its name: the line goes home. -/
theorem lone_tilde_goes_home :
    let m : Manifest := ⟨[.directory "~" []]⟩
    ∃ (dir here : Directory) (it : Interpreter), m.toDirectory = .ok dir ∧ it.Reachable ∧ it.tree = ⟨dir⟩ ∧
      it.tree.directory it.session.current = .ok here ∧ ("~", Node.directory []) ∈ here.entries ∧
      (it.evaluate "cd ~").next.session.current ≠ it.session.current.push "~" := by
  intro m
  have hm : m.toDirectory = .ok ⟨[("~", .directory [])]⟩ := rfl
  have hr := reachable_root ⟨⟨[("~", .directory [])]⟩⟩ "recruit" "dcib"
  exact ⟨_, ⟨[("~", .directory [])]⟩, _, hm, hr, rfl, rfl, .head _, by decide +kernel⟩

end TreeShell.Interpreter
