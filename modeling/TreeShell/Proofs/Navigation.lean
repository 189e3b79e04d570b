import TreeShell.Proofs.Targets
/-!
# Navigation

What lies at the location that a target names decides what `cd` and `cat` do with it, so that the two never
disagree about the tree (`cd_and_cat_agree`). Going to one target and then to another is going to both joined
by a slash at once (`navigation_composes`).
-/

namespace TreeShell

open Text

namespace Interpreter

/-! ## Lines with a target -/

/-- Every line of a command and a target, whatever stands behind them, ends at the path with the output, and
nothing else changes. -/
def Leads (it : Interpreter) (verb target : String) (path : Path) (output : List String) : Prop :=
  ∀ raw rest, tokens raw = verb :: target :: rest →
    (it.evaluate raw).next = { it with session := it.session.moveTo path } ∧
      (it.evaluate raw).evaluation.output = output

section Targets

variable {it : Interpreter} {target : String}

/-- A line that is known to end at a path changes nothing else. -/
theorem next_of_current {raw : String} {path : Path} (h : (it.evaluate raw).next.session.current = path) :
    (it.evaluate raw).next = { it with session := it.session.moveTo path } := by
  obtain ⟨p, hn, -⟩ := it.evaluate_next raw
  rw [hn] at h ⊢
  rw [← h]
  rfl

theorem Placed.cd_leads (hp : it.Placed) {entries : List (String × Node)}
    (h : it.tree.lookup (it.resolve target) = .ok (.directory entries)) :
    it.Leads "cd" target (it.resolve target) [] := by
  intro raw rest ht
  obtain ⟨hc, ho⟩ := evaluate_cd hp ht
  rw [h] at hc ho
  exact ⟨next_of_current hc, ho⟩

theorem Placed.cd_stays (hp : it.Placed)
    (h : ∀ entries, it.tree.lookup (it.resolve target) ≠ .ok (.directory entries)) :
    it.Leads "cd" target it.session.current ["cd: no such directory: " ++ target] := by
  intro raw rest ht
  obtain ⟨hc, ho⟩ := evaluate_cd hp ht
  split at hc
  · next entries hl => exact absurd hl (h entries)
  · split at ho
    · next entries hl => exact absurd hl (h entries)
    · exact ⟨next_of_current hc, ho⟩

theorem cat_leads {content : String} (h : it.tree.lookup (it.resolve target) = .ok (.file content)) :
    it.Leads "cat" target it.session.current [content] := by
  intro raw rest ht
  obtain ⟨hn, ho⟩ := it.evaluate_cat ht
  rw [h] at ho
  exact ⟨hn, ho⟩

theorem cat_stays (h : ∀ content, it.tree.lookup (it.resolve target) ≠ .ok (.file content)) :
    it.Leads "cat" target it.session.current ["cat: " ++ target ++ ": No such file"] := by
  intro raw rest ht
  obtain ⟨hn, ho⟩ := it.evaluate_cat ht
  split at ho
  · next content hl => exact absurd hl (h content)
  · exact ⟨hn, ho⟩

end Targets

theorem evaluate_cd_alone (it : Interpreter) {raw : String} (ht : tokens raw = ["cd"]) :
    (it.evaluate raw).next = { it with session := it.session.moveTo it.session.home } ∧
      (it.evaluate raw).evaluation.output = [] := by
  have hi : it.invoke ⟨"cd", []⟩ = ⟨it.session.reset, .ok { lines := [] }⟩ := it.invoke_name .cd []
  obtain ⟨hn, he⟩ := reply_of_invoke hi (it.prompt ++ " " ++ trimmed raw)
  rw [evaluate_of_tokens ht, hn, he]
  exact ⟨rfl, rfl⟩

/-- No line of `cat` moves the session. -/
theorem evaluate_cat_next (it : Interpreter) {raw : String} {args : List String} (ht : tokens raw = "cat" :: args) :
    (it.evaluate raw).next = it := by
  cases args with
  | nil =>
    have hi : it.invoke ⟨"cat", []⟩ = ⟨it.session, .error (.missingOperand .cat)⟩ := it.invoke_name .cat []
    rw [evaluate_of_tokens ht, (reply_of_invoke hi _).1]
  | cons target rest => exact (it.evaluate_cat ht).1

/-! ## Both commands ask the same question -/

/-- In every state of every session a target names a directory, a file or nothing. `cd` enters the directory
and refuses the others, `cat` shows the file and refuses the others, and a refusal is one line that changes
nothing. Going home without a target or by a lone tilde is entering the directory that home is, and `cat` never
moves. -/
theorem cd_and_cat_agree (it : Interpreter) (hr : it.Reachable) :
    (∀ target : String,
      let path := Path.resolve target it.session.current it.session.home
      let noDirectory := ["cd: no such directory: " ++ target]
      let noFile := ["cat: " ++ target ++ ": No such file"]
      ((∃ entries, it.tree.lookup path = .ok (.directory entries)) ∧
        (∀ content, it.tree.lookup path ≠ .ok (.file content)) ∧ (∀ e, it.tree.lookup path ≠ .error e) ∧
        it.Leads "cd" target path [] ∧ it.Leads "cat" target it.session.current noFile) ∨
      (∃ content, it.tree.lookup path = .ok (.file content) ∧
        (∀ entries, it.tree.lookup path ≠ .ok (.directory entries)) ∧ (∀ e, it.tree.lookup path ≠ .error e) ∧
        it.Leads "cat" target it.session.current [content] ∧
        it.Leads "cd" target it.session.current noDirectory) ∨
      (it.tree.lookup path = .error (.notFound path) ∧ (∀ node, it.tree.lookup path ≠ .ok node) ∧
        it.Leads "cd" target it.session.current noDirectory ∧
        it.Leads "cat" target it.session.current noFile)) ∧
    (∃ entries, it.tree.lookup it.session.home = .ok (.directory entries)) ∧
    Path.resolve "~" it.session.current it.session.home = it.session.home ∧
    it.Leads "cd" "~" it.session.home [] ∧
    (∀ raw, tokens raw = ["cd"] →
      (it.evaluate raw).next = { it with session := it.session.moveTo it.session.home } ∧
        (it.evaluate raw).evaluation.output = []) ∧
    ∀ raw args, tokens raw = "cat" :: args → (it.evaluate raw).next = it := by
  have hp := hr.placed
  obtain ⟨htilde, entries, hhome⟩ := hp.lookup_tilde
  refine ⟨?_, ⟨entries, hhome⟩, htilde, ?_, fun raw => it.evaluate_cd_alone, fun raw args => it.evaluate_cat_next⟩
  · intro target path noDirectory noFile
    rcases it.tree.lookup_cases path with ⟨entries, h⟩ | ⟨content, h⟩ | h
    · have hno : ∀ content, it.tree.lookup path ≠ .ok (.file content) := by simp [h]
      exact .inl ⟨⟨entries, h⟩, hno, by simp [h], hp.cd_leads h, cat_stays hno⟩
    · have hno : ∀ entries, it.tree.lookup path ≠ .ok (.directory entries) := by simp [h]
      exact .inr (.inl ⟨content, h, hno, by simp [h], cat_leads h, hp.cd_stays hno⟩)
    · have hno : ∀ node, it.tree.lookup path ≠ .ok node := by simp [h]
      exact .inr (.inr ⟨h, hno, hp.cd_stays fun entries => hno _, cat_stays fun content => hno _⟩)
  · have h : it.Leads "cd" "~" (it.resolve "~") [] := hp.cd_leads (htilde ▸ hhome)
    rwa [htilde] at h

/-- A file at the recruit's home, named with words behind it. -/
theorem cd_and_cat_agree_brief :
    let it : Interpreter := ⟨Bureau.tree, "recruit", "dcib", .opened (.ofTokens ["home", "recruit"])⟩
    it.Reachable ∧ it.Leads "cat" "../recruit/brief.txt" it.session.current [Bureau.brief] ∧
      it.Leads "cd" "../recruit/brief.txt" it.session.current ["cd: no such directory: ../recruit/brief.txt"] := by
  intro it
  have ho : opened Bureau.tree "recruit" "dcib" (.ofTokens ["home", "recruit"]) = .ok it := rfl
  have hr := Reachable.opened ho
  have hl : it.tree.lookup (Path.resolve "../recruit/brief.txt" it.session.current it.session.home) =
      .ok (.file Bureau.brief) := rfl
  rcases (cd_and_cat_agree it hr).1 "../recruit/brief.txt" with h | ⟨content, hc, -, -, hcat, hcd⟩ | h
  · exact absurd hl (h.2.1 _)
  · rw [hl] at hc
    cases hc
    exact ⟨hr, hcat, hcd⟩
  · exact absurd hl (h.2.1 _)

/-! ## Lines that are carried out -/

/-- A line names a command, and the command is carried out. -/
def Succeeds (it : Interpreter) (raw : String) : Prop :=
  ∃ name args answer, tokens raw = name :: args ∧ (it.invoke ⟨name, args⟩).result = .ok answer

section Success

variable {it : Interpreter} {raw target : String} {rest : List String}

theorem succeeds_iff_invoke {name : String} {args : List String} (ht : tokens raw = name :: args) :
    it.Succeeds raw ↔ ∃ answer, (it.invoke ⟨name, args⟩).result = .ok answer := by
  constructor
  · rintro ⟨n, as, answer, h, hi⟩
    obtain ⟨rfl, rfl⟩ : name = n ∧ args = as := by simpa [ht] using h
    exact ⟨answer, hi⟩
  · rintro ⟨answer, hi⟩
    exact ⟨name, args, answer, ht, hi⟩

theorem Placed.succeeds_cd_iff (hp : it.Placed) (ht : tokens raw = "cd" :: target :: rest) :
    it.Succeeds raw ↔ ∃ entries, it.tree.lookup (it.resolve target) = .ok (.directory entries) := by
  have hi : it.invoke ⟨"cd", target :: rest⟩ = it.cd (some target) := it.invoke_name .cd (target :: rest)
  have hm : target ∈ tokens raw := by simp [ht]
  have hne : target ≠ "" := ne_empty_of_isWord (isWord_of_mem_tokens hm)
  rw [succeeds_iff_invoke ht, hi, hp.cd_some hne]
  split <;> simp_all

theorem succeeds_cat_iff (ht : tokens raw = "cat" :: target :: rest) :
    it.Succeeds raw ↔ ∃ content, it.tree.lookup (it.resolve target) = .ok (.file content) := by
  have hi : it.invoke ⟨"cat", target :: rest⟩ = it.cat (some target) := it.invoke_name .cat (target :: rest)
  rw [succeeds_iff_invoke ht, hi]
  unfold cat
  dsimp only
  split <;> simp_all

end Success

theorem isWord_join {a b : String} (ha : IsWord a.toList) (hb : IsWord b.toList) :
    IsWord (a ++ "/" ++ b).toList := by
  refine ⟨by simp, ?_⟩
  intro c hc
  have hc : c ∈ a.toList ∨ c = '/' ∨ c ∈ b.toList := by simpa using hc
  rcases hc with hc | rfl | hc
  · exact ha.2 c hc
  · decide
  · exact hb.2 c hc

/-! ## One step or two -/

theorem Placed.next_of_succeeds {it : Interpreter} {a : String} (hp : it.Placed) (ha : IsWord a.toList)
    (hs : it.Succeeds ("cd " ++ a)) :
    (it.evaluate ("cd " ++ a)).next = { it with session := it.session.moveTo (it.resolve a) } := by
  obtain ⟨entries, hl⟩ := (hp.succeeds_cd_iff (tokens_cd ha)).1 hs
  exact (hp.cd_leads hl _ _ (tokens_cd ha)).1

/-- A target and a second one behind a slash name what the second names after the first was gone to. So where
`cd` goes to the first, one line with both does what two lines do: `cd` is carried out in the same cases and
ends in the same session, and `cat` is carried out in the same cases and shows the same. -/
theorem navigation_composes :
    (∀ (current home : Path) (a b : String), a ≠ "" → b.toList.head? ≠ some '/' → b.toList.head? ≠ some '~' →
      Path.resolve (a ++ "/" ++ b) current home = Path.resolve b (Path.resolve a current home) home) ∧
    ∀ it : Interpreter, it.Reachable → ∀ a b : String, IsWord a.toList → IsWord b.toList →
      b.toList.head? ≠ some '/' → b.toList.head? ≠ some '~' → it.Succeeds ("cd " ++ a) →
      let there := (it.evaluate ("cd " ++ a)).next
      (it.Succeeds ("cd " ++ (a ++ "/" ++ b)) ↔ there.Succeeds ("cd " ++ b)) ∧
      (there.Succeeds ("cd " ++ b) →
        (it.evaluate ("cd " ++ (a ++ "/" ++ b))).next = (there.evaluate ("cd " ++ b)).next) ∧
      (it.Succeeds ("cat " ++ (a ++ "/" ++ b)) ↔ there.Succeeds ("cat " ++ b)) ∧
      (there.Succeeds ("cat " ++ b) →
        (it.evaluate ("cat " ++ (a ++ "/" ++ b))).evaluation.output =
          (there.evaluate ("cat " ++ b)).evaluation.output) := by
  refine ⟨fun current home a b hne hslash htilde => Path.resolve_resolve hne hslash htilde current home, ?_⟩
  intro it hr a b ha hb hslash htilde hs there
  have hp := hr.placed
  have hp' : there.Placed := hp.evaluate ("cd " ++ a)
  have hab := isWord_join ha hb
  have hn : there = { it with session := it.session.moveTo (it.resolve a) } := hp.next_of_succeeds ha hs
  have hne : a ≠ "" := ne_empty_of_isWord ha
  -- Both ask the same tree for the same location.
  have hres : it.resolve (a ++ "/" ++ b) = there.resolve b := by
    rw [hn]
    exact Path.resolve_resolve hne hslash htilde _ _
  have htree : it.tree = there.tree := by rw [hn]
  have hcd : it.Succeeds ("cd " ++ (a ++ "/" ++ b)) ↔ there.Succeeds ("cd " ++ b) := by
    rw [hp.succeeds_cd_iff (tokens_cd hab), hp'.succeeds_cd_iff (tokens_cd hb), hres, htree]
  refine ⟨hcd, ?_, ?_, ?_⟩
  · intro h
    rw [hp.next_of_succeeds hab (hcd.2 h), hp'.next_of_succeeds hb h, hres, hn]
    rfl
  · rw [succeeds_cat_iff (tokens_cat hab), succeeds_cat_iff (tokens_cat hb), hres, htree]
  · intro h
    obtain ⟨content, hl⟩ := (succeeds_cat_iff (tokens_cat hb)).1 h
    rw [(cat_leads hl _ _ (tokens_cat hb)).2]
    rw [← hres, ← htree] at hl
    exact (cat_leads hl _ _ (tokens_cat hab)).2

/-- The recruit goes to the records by way of a folder that has two slashes behind it. -/
theorem navigation_composes_records :
    let it : Interpreter := ⟨Bureau.tree, "recruit", "dcib", .opened (.ofTokens ["home", "recruit"])⟩
    let there := (it.evaluate ("cd " ++ "~/secure/")).next
    it.Reachable ∧ it.Succeeds ("cd " ++ ("~/secure/" ++ "/" ++ "../records")) ∧
      (it.evaluate ("cd " ++ ("~/secure/" ++ "/" ++ "../records"))).next =
        (there.evaluate ("cd " ++ "../records")).next := by
  intro it there
  have ho : opened Bureau.tree "recruit" "dcib" (.ofTokens ["home", "recruit"]) = .ok it := rfl
  have hr := Reachable.opened ho
  have ha : IsWord "~/secure/".toList := ⟨by simp, by simp; decide⟩
  have hb : IsWord "../records".toList := ⟨by simp, by simp; decide⟩
  have hs : it.Succeeds ("cd " ++ "~/secure/") := (hr.placed.succeeds_cd_iff (tokens_cd ha)).2 ⟨_, rfl⟩
  have hs' : there.Succeeds ("cd " ++ "../records") :=
    ((hr.placed.evaluate _).succeeds_cd_iff (tokens_cd hb)).2
      ⟨[("candidates.log", .file Bureau.candidatesLog)], rfl⟩
  obtain ⟨hcd, hnext, -⟩ :=
    navigation_composes.2 it hr "~/secure/" "../records" ha hb (by decide +kernel) (by decide +kernel) hs
  exact ⟨hr, hcd.2 hs', hnext hs'⟩

end Interpreter

end TreeShell
