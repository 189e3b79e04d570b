import TreeShell.Proofs.Addresses
import TreeShell.Proofs.Manifest.ReadBack
/-!
# What a listing shows

A listing is one line with two spaces between each two names. Names that hold no space and are not empty are read
back from it (`listedNames_join`), and the names of a manifest are such. So, in a tree from a manifest, the line of
`ls -a` stands for the names of the manifest at the session's location, in their order, and that of a plain `ls` for
those of them that are not hidden (`listing_decodes`).
-/

namespace TreeShell

namespace Text

/-! ## Lines of names -/

/-- The pieces of a line around each two spaces, from the left. -/
def splitGaps : List Char → List (List Char)
  | [] => [[]]
  | ' ' :: ' ' :: cs => [] :: splitGaps cs
  | c :: cs => (splitGaps cs).modifyHead (c :: ·)

/-- The names that a line shows. An empty line shows none. -/
def listedNames (line : String) : List String :=
  if line = "" then [] else (splitGaps line.toList).map String.ofList

theorem splitGaps_gap (cs : List Char) : splitGaps (' ' :: ' ' :: cs) = [] :: splitGaps cs := by
  rw [splitGaps]

theorem splitGaps_cons_of_ne {c : Char} (hc : c ≠ ' ') (cs : List Char) :
    splitGaps (c :: cs) = (splitGaps cs).modifyHead (c :: ·) := by
  rw [splitGaps]
  simp [hc]

theorem splitGaps_of_notMem {cs : List Char} (h : ' ' ∉ cs) : splitGaps cs = [cs] := by
  induction cs with
  | nil => rfl
  | cons c cs ih =>
    obtain ⟨hc, hcs⟩ : ' ' ≠ c ∧ ' ' ∉ cs := by simpa using h
    rw [splitGaps_cons_of_ne (Ne.symm hc), ih hcs, List.modifyHead_cons]

theorem splitGaps_append {piece : List Char} (h : ' ' ∉ piece) (rest : List Char) :
    splitGaps (piece ++ ' ' :: ' ' :: rest) = piece :: splitGaps rest := by
  induction piece with
  | nil => exact splitGaps_gap rest
  | cons c cs ih =>
    obtain ⟨hc, hcs⟩ : ' ' ≠ c ∧ ' ' ∉ cs := by simpa using h
    rw [List.cons_append, splitGaps_cons_of_ne (Ne.symm hc), ih hcs, List.modifyHead_cons]

theorem toList_join_gap (n m : String) (rest : List String) :
    (join "  " (n :: m :: rest)).toList = n.toList ++ ' ' :: ' ' :: (join "  " (m :: rest)).toList := by
  simp [join, String.intercalate_cons_cons]

theorem splitGaps_join {names : List String} (hne : names ≠ []) (h : ∀ n ∈ names, ' ' ∉ n.toList) :
    (splitGaps (join "  " names).toList).map String.ofList = names := by
  induction names with
  | nil => exact absurd rfl hne
  | cons n rest ih =>
    have hn := h n (by simp)
    cases rest with
    | nil => simp [join, splitGaps_of_notMem hn]
    | cons m rest =>
      have hrest := ih (by simp) fun k hk => h k (by simp [hk])
      -- The first gap is the one that was put behind the first name.
      rw [toList_join_gap, splitGaps_append hn, List.map_cons, String.ofList_toList, hrest]

/-- Names that are not empty and hold no space are read back from their line. -/
theorem listedNames_join {names : List String} (h : ∀ n ∈ names, n ≠ "" ∧ ' ' ∉ n.toList) :
    listedNames (join "  " names) = names := by
  cases names with
  | nil => rfl
  | cons n rest =>
    have hline : join "  " (n :: rest) ≠ "" := by
      intro he
      obtain ⟨hn, -⟩ := h n (by simp)
      cases rest with
      | nil => exact hn (by simpa [join] using he)
      | cons m rest =>
        have := congrArg String.toList he
        simp [toList_join_gap] at this
    rw [listedNames, if_neg hline, splitGaps_join (by simp) fun k hk => (h k hk).2]

theorem mem_join {c : Char} {names : List String} (h : c ∈ (join "  " names).toList) :
    c = ' ' ∨ ∃ n ∈ names, c ∈ n.toList := by
  induction names with
  | nil => simp [join] at h
  | cons n rest ih =>
    cases rest with
    | nil => exact .inr ⟨n, by simp, by simpa [join] using h⟩
    | cons m rest =>
      have h : c ∈ n.toList ∨ c = ' ' ∨ c ∈ (join "  " (m :: rest)).toList := by simpa [toList_join_gap] using h
      rcases h with h | h | h
      · exact .inr ⟨n, by simp, h⟩
      · exact .inl h
      · refine (ih h).imp_right ?_
        rintro ⟨k, hk, hc⟩
        exact ⟨k, by simp [hk], hc⟩

end Text

open Text

/-- Valid names are read back from their line, which is one. -/
theorem Name.listedNames_of_isValid {names : List String} (h : ∀ name ∈ names, isValid name = true) :
    listedNames (join "  " names) = names ∧ '\n' ∉ (join "  " names).toList := by
  have hspace : isBlank ' ' = true := by decide
  have hnewline : isBlank '\n' = true := by decide
  have hno : ∀ c, isBlank c = true → ∀ name ∈ names, c ∉ name.toList := by
    intro c hc name hn hm
    rw [isBlank_of_isValid (h name hn) c hm] at hc
    cases hc
  constructor
  · exact listedNames_join fun name hn => ⟨(isSegment_of_isValid (h name hn)).1, hno ' ' hspace name hn⟩
  · intro hm
    rcases mem_join hm with he | ⟨name, hn, hc⟩
    · exact absurd he (by decide)
    · exact hno '\n' hnewline name hn hc

/-! ## Directories of a manifest -/

namespace Entry

/-- `inner` lists the children of the directory at the end of a chain of entries with these names. -/
inductive Under : List Entry → List String → List Entry → Prop
  | here (entries) : Under entries [] entries
  | deeper {entries name children chain inner} (hm : Entry.directory name children ∈ entries)
    (h : Under children chain inner) : Under entries (name :: chain) inner

theorem mem_nodes {entries : List Entry} {name : String} {child : Node} (h : (name, child) ∈ nodes entries) :
    ∃ entry ∈ entries, entry.name = name ∧ entry.node = child := by
  induction entries with
  | nil => simp [nodes] at h
  | cons entry rest ih =>
    rw [nodes] at h
    rcases List.mem_cons.1 h with he | h
    · obtain ⟨rfl, rfl⟩ := Prod.mk.inj he
      exact ⟨entry, by simp, rfl, rfl⟩
    · obtain ⟨e, hm, hn⟩ := ih h
      exact ⟨e, by simp [hm], hn⟩

/-- What lies in the tree of a manifest at the end of a chain, the manifest lists there. -/
theorem exists_under {chain : List String} {entries : List Entry} {children : List (String × Node)}
    (h : Node.Under (.directory (nodes entries)) chain (.directory children)) :
    ∃ inner, Under entries chain inner ∧ children = nodes inner := by
  induction chain generalizing entries with
  | nil =>
    cases h
    exact ⟨entries, .here entries, rfl⟩
  | cons name chain ih =>
    cases h with
    | entry hm h =>
      obtain ⟨entry, he, rfl, rfl⟩ := mem_nodes hm
      cases entry with
      | file name content => cases h
      | directory name inner =>
        obtain ⟨listed, hu, hc⟩ := ih h
        exact ⟨listed, .deeper he hu, hc⟩

end Entry

namespace Interpreter

/-! ## Lines of `ls` -/

/-- With nothing but `-a` behind it, `ls` lists the directory where the session stands. -/
theorem evaluate_ls {it : Interpreter} {d : Directory} (hd : it.tree.directory it.session.current = .ok d)
    {raw : String} {args : List String} (ht : tokens raw = "ls" :: args) (hall : ∀ arg ∈ args, arg = "-a") :
    (it.evaluate raw).evaluation.output = [join "  " (if args.isEmpty then d.visibleNames else d.names)] := by
  have hi : it.invoke ⟨"ls", args⟩ = it.ls args := it.invoke_name .ls args
  have hnone : args.find? (fun arg => arg != "-a") = none := by simpa using hall
  simp only [ls, hnone, hd] at hi
  rw [evaluate_of_tokens ht, (reply_of_invoke hi _).2]
  rfl

/-- With anything else behind it, `ls` names the first such argument. -/
theorem evaluate_ls_of_ne (it : Interpreter) {raw : String} {args : List String} (ht : tokens raw = "ls" :: args)
    {option : String} (hm : option ∈ args) (hne : option ≠ "-a") :
    ∃ before first after, args = before ++ first :: after ∧ (∀ arg ∈ before, arg = "-a") ∧ first ≠ "-a" ∧
      (it.evaluate raw).evaluation.output = ["ls: unsupported option: " ++ first] := by
  have hi : it.invoke ⟨"ls", args⟩ = it.ls args := it.invoke_name .ls args
  have hsome : (args.find? fun arg => arg != "-a").isSome = true := List.find?_isSome.2 ⟨option, hm, by simpa using hne⟩
  obtain ⟨first, hfirst⟩ := Option.isSome_iff_exists.1 hsome
  obtain ⟨hbad, before, after, hargs, hbefore⟩ := List.find?_eq_some_iff_append.1 hfirst
  simp only [ls, hfirst] at hi
  refine ⟨before, first, after, hargs, by simpa using hbefore, by simpa using hbad, ?_⟩
  rw [evaluate_of_tokens ht, (reply_of_invoke hi _).2]
  rfl

/-- A session over the tree of a manifest stands where the manifest lists valid names. -/
theorem exists_listed {m : Manifest} {dir : Directory} (hm : m.toDirectory = .ok dir) {it : Interpreter}
    (ht : it.tree = ⟨dir⟩) (hp : it.Placed) :
    ∃ here, Entry.Under m.children it.session.current.segments here ∧
      it.tree.directory it.session.current = .ok ⟨Entry.nodes here⟩ ∧
      ∀ name ∈ Directory.names ⟨Entry.nodes here⟩, Name.isValid name = true := by
  obtain ⟨⟨entries⟩, hd⟩ := hp.directory
  have hu := (lookup_eq_ok_iff_under hm ht _ _).1 ((Tree.directory_eq_ok_iff ..).1 hd)
  obtain ⟨hvalid, -⟩ := hu.names_of_wellNamed (Manifest.wellNamed_toNode hm)
  rw [Directory.toNode, ((m.toDirectory_eq_ok_iff dir).1 hm).2] at hu
  obtain ⟨here, hunder, rfl⟩ := Entry.exists_under hu
  exact ⟨here, hunder, hd, hvalid⟩

/-! ## Main theorem -/

/-- In a tree from a manifest, a session stands at a directory that the manifest lists. Any line of `ls` with one or
more `-a` outputs one line there, which reads as the names of that directory in the manifest's order, and a plain
`ls` one line that reads as those without a leading dot in the same order, whatever the directory itself is called.
With another argument, `ls` only names the first one. -/
theorem listing_decodes (m : Manifest) (dir : Directory) (hm : m.toDirectory = .ok dir) (it : Interpreter)
    (hr : it.Reachable) (ht : it.tree = ⟨dir⟩) :
    (∃ here, Entry.Under m.children it.session.current.segments here ∧
      it.tree.directory it.session.current = .ok ⟨Entry.nodes here⟩ ∧
      ∃ all visible : String,
        (∀ raw args, tokens raw = "ls" :: args → args ≠ [] → (∀ arg ∈ args, arg = "-a") →
          (it.evaluate raw).evaluation.output = [all]) ∧
        (∀ raw, tokens raw = ["ls"] → (it.evaluate raw).evaluation.output = [visible]) ∧
        '\n' ∉ all.toList ∧ '\n' ∉ visible.toList ∧
        listedNames all = here.map Entry.name ∧
        listedNames visible = (here.map Entry.name).filter (fun name => name.toList.head? != some '.') ∧
        (listedNames visible).Sublist (listedNames all)) ∧
    ∀ raw args option, tokens raw = "ls" :: args → option ∈ args → option ≠ "-a" →
      ∃ before first after, args = before ++ first :: after ∧ (∀ arg ∈ before, arg = "-a") ∧ first ≠ "-a" ∧
        (it.evaluate raw).evaluation.output = ["ls: unsupported option: " ++ first] := by
  refine ⟨?_, fun raw args option ht => it.evaluate_ls_of_ne ht⟩
  obtain ⟨here, hunder, hd, hvalid⟩ := exists_listed hm ht hr.placed
  have hvisible : ∀ name ∈ Directory.visibleNames ⟨Entry.nodes here⟩, Name.isValid name = true :=
    fun name hn => hvalid name (List.mem_filter.1 hn).1
  obtain ⟨hall, hallLine⟩ := Name.listedNames_of_isValid hvalid
  obtain ⟨hshown, hshownLine⟩ := Name.listedNames_of_isValid hvisible
  refine ⟨here, hunder, hd, _, _, ?_, ?_, hallLine, hshownLine, ?_, ?_, ?_⟩
  · intro raw args ht hne hargs
    rw [evaluate_ls hd ht hargs, if_neg (by simpa using hne)]
  · intro raw ht
    exact evaluate_ls hd ht (by simp)
  · rw [hall, Directory.names, Entry.names_nodes]
  · rw [hshown, Directory.visibleNames, Directory.names, Entry.names_nodes]
    rfl
  · rw [hall, hshown]
    exact List.filter_sublist

/-- The recruit stands in a hidden directory that holds a hidden file and another one. -/
theorem listing_decodes_hidden :
    let m : Manifest := ⟨[.directory ".vault" [.file "b" "", .file ".key" "k", .file "a" ""]]⟩
    ∃ (dir : Directory) (it : Interpreter), m.toDirectory = .ok dir ∧ it.Reachable ∧ it.tree = ⟨dir⟩ ∧
      tokens "ls -a -a" = ["ls", "-a", "-a"] ∧
      (∃ line, (it.evaluate "ls -a -a").evaluation.output = [line] ∧ listedNames line = ["b", ".key", "a"]) ∧
      (∃ line, (it.evaluate "ls").evaluation.output = [line] ∧ listedNames line = ["b", "a"]) ∧
      (it.evaluate "ls -a .vault -l").evaluation.output = ["ls: unsupported option: .vault"] := by
  intro m
  let entries : List (String × Node) :=
    [(".vault", .directory [("b", .file ""), (".key", .file "k"), ("a", .file "")])]
  let it := (⟨⟨⟨entries⟩⟩, "recruit", "dcib", .opened .root⟩ : Interpreter).after ["cd .vault"]
  have hm : m.toDirectory = .ok ⟨entries⟩ := rfl
  have hr : it.Reachable := (reachable_root ..).after _
  have htree : it.tree = ⟨⟨entries⟩⟩ := (after_kept _ _).1
  obtain ⟨⟨here, -, hd, all, visible, hall, hvisible, -, -, hnames, hshown, -⟩, hbad⟩ :=
    listing_decodes m ⟨entries⟩ hm it hr htree
  have hhere : here.map Entry.name = ["b", ".key", "a"] := by
    have hvault : it.tree.directory it.session.current =
      .ok ⟨[("b", .file ""), (".key", .file "k"), ("a", .file "")]⟩ := rfl
    have hentries : [("b", .file ""), (".key", .file "k"), ("a", .file "")] = Entry.nodes here :=
      congrArg Directory.entries (Except.ok.inj (hvault.symm.trans hd))
    rw [← Entry.names_nodes, ← hentries]
    rfl
  have htwice : tokens "ls -a -a" = ["ls", "-a", "-a"] := by decide +kernel
  obtain ⟨before, first, after, hargs, hbefore, hne, hout⟩ :=
    hbad "ls -a .vault -l" ["-a", ".vault", "-l"] ".vault" (by decide +kernel) (by simp) (by decide)
  obtain rfl : first = ".vault" := by
    rcases before with _ | ⟨b, _ | ⟨b', before⟩⟩ <;> simp_all
  rw [hhere] at hnames hshown
  exact ⟨_, it, hm, hr, htree, htwice, ⟨all, hall _ _ htwice (by simp) (by simp), hnames⟩,
    ⟨visible, hvisible _ (by decide +kernel), hshown⟩, hout⟩

end Interpreter

end TreeShell
