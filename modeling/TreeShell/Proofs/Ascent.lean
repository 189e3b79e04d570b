import TreeShell.Proofs.Locations
import TreeShell.Proofs.Walks
/-!
# Going up

A target of dots leads up: each `..` takes the last name off the location until none is left, and `.` and repeated
slashes do nothing (`Path.segments_pushAll_up`). What contains a directory is one, so a session can always go up
(`Placed.cd_up`), and going up by as many `..` as names were gone down leads back (`ascent_undoes_descent`).
-/

namespace TreeShell

open Text

/-! ## Targets of dots -/

/-- A token that leads nowhere or up. -/
def IsUpward (token : String) : Prop := token = "" ∨ token = "." ∨ token = ".."

namespace Path

theorem segments_push_of_isUpward {token : String} (h : IsUpward token) (p : Path) :
    (p.push token).segments = if token = ".." then p.segments.dropLast else p.segments := by
  have hno : ¬IsSegment token := by rcases h with rfl | rfl | rfl <;> decide
  rw [segments_push, if_neg hno]

/-- Upward tokens take as many names off the end as there are `..` among them, as long as there are names. -/
theorem segments_pushAll_up {tokens : List String} (h : ∀ token ∈ tokens, IsUpward token) (p : Path) :
    (p.pushAll tokens).segments = p.segments.take (p.segments.length - tokens.count "..") := by
  induction tokens generalizing p with
  | nil => simp [pushAll]
  | cons token tokens ih =>
    have hpush := segments_push_of_isUpward (h token (by simp)) p
    have hrest := ih (fun t ht => h t (by simp [ht])) (p.push token)
    rw [pushAll, List.foldl_cons, ← pushAll, hrest, hpush, List.count_cons]
    by_cases hup : token = ".."
    · -- The last name is off already, so one less is to be taken.
      rw [if_pos hup, List.length_dropLast, List.dropLast_eq_take, List.take_take]
      simp only [hup, beq_self_eq_true, if_true]
      congr 1
      omega
    · simp [hup]

end Path

namespace Text

/-- The first piece starts as the text does. -/
theorem exists_mem_split_of_head {sep c : Char} {s : String} (h : s.toList.head? = some c) (hc : c ≠ sep) :
    ∃ piece ∈ split sep s, piece.toList.head? = some c := by
  obtain ⟨cs, hcs⟩ := List.head?_eq_some_iff.1 h
  cases hp : splitChars sep cs with
  | nil => exact absurd hp (splitChars_ne_nil sep cs)
  | cons piece pieces => exact ⟨String.ofList (c :: piece), by simp [split, hcs, splitChars, hc, hp], by simp⟩

theorem head?_join {name : String} (h : name ≠ "") (names : List String) :
    (join "/" (name :: names)).toList.head? = name.toList.head? := by
  have hne : name.toList ≠ [] := fun he => h (String.toList_injective (by simpa using he))
  obtain ⟨c, cs, hcs⟩ := List.exists_cons_of_ne_nil hne
  cases names with
  | nil => simp [join]
  | cons next names => simp [join, String.intercalate_cons_cons, hcs]

/-- Names without blanks between slashes are one word. -/
theorem isWord_join_names {name : String} (hne : name ≠ "") {names : List String}
    (h : ∀ n ∈ name :: names, ∀ c ∈ n.toList, isBlank c = false) : IsWord (join "/" (name :: names)).toList := by
  refine ⟨?_, isBlank_join h⟩
  intro he
  have hhead := head?_join hne names
  rw [he, List.head?_nil, eq_comm, List.head?_eq_none_iff] at hhead
  exact hne (String.toList_injective (by simpa using hhead))

theorem isWord_ups (n : Nat) : IsWord (join "/" (List.replicate (n + 1) "..")).toList := by
  have hdots : ∀ c ∈ "..".toList, isBlank c = false := by simp; decide
  have hall : ∀ token ∈ List.replicate (n + 1) "..", ∀ c ∈ token.toList, isBlank c = false := by
    intro token ht
    rwa [List.eq_of_mem_replicate ht]
  exact isWord_join_names (by decide) hall

theorem split_ups (n : Nat) : split '/' (join "/" (List.replicate (n + 1) "..")) = List.replicate (n + 1) ".." := by
  refine split_join (by simp) ?_
  intro token ht
  rw [List.eq_of_mem_replicate ht]
  decide

end Text

namespace Interpreter

/-- A target of dots is read from where the session stands. -/
theorem resolve_of_isUpward (it : Interpreter) {target : String} (hslash : target.toList.head? ≠ some '/')
    (h : ∀ token ∈ split '/' target, IsUpward token) :
    it.resolve target = it.session.current.pushAll (split '/' target) := by
  refine Path.resolve_of_head hslash ?_ _ _
  intro htilde
  have hne : '~' ≠ '/' := by decide
  obtain ⟨piece, hm, hhead⟩ := exists_mem_split_of_head htilde hne
  rcases h piece hm with rfl | rfl | rfl <;> simp at hhead

/-- Names of which the first does not start with a tilde are followed from where the session stands. -/
theorem segments_resolve_join (it : Interpreter) {name : String} {names : List String}
    (h : ∀ n ∈ name :: names, IsSegment n ∧ '/' ∉ n.toList) (htilde : name.toList.head? ≠ some '~') :
    (it.resolve (join "/" (name :: names))).segments = it.session.current.segments ++ name :: names := by
  obtain ⟨⟨hne, -⟩, hslash⟩ := h name (by simp)
  have hhead := head?_join hne names
  have hfirst : name.toList.head? ≠ some '/' := fun he => hslash (List.mem_of_mem_head? he)
  rw [resolve, Path.resolve_of_head (by rwa [hhead]) (by rwa [hhead]),
    split_join (by simp) fun n hn => (h n hn).2, Path.segments_pushAll fun n hn => (h n hn).1]

/-! ## Up, and down and up again -/

/-- A session can go up from wherever it stands, and stops at the root. -/
theorem Placed.cd_up {it : Interpreter} (hp : it.Placed) {target : String} (hw : IsWord target.toList)
    (hslash : target.toList.head? ≠ some '/') (h : ∀ token ∈ split '/' target, IsUpward token) :
    ∃ (ancestor : Path) (removed : List String),
      it.session.current.segments = ancestor.segments ++ removed ∧
      removed.length = min it.session.current.length ((split '/' target).count "..") ∧
      it.Succeeds ("cd " ++ target) ∧
      (it.evaluate ("cd " ++ target)).next = { it with session := it.session.moveTo ancestor } ∧
      (it.evaluate ("cd " ++ target)).evaluation.output = [] := by
  let kept := it.session.current.segments.length - (split '/' target).count ".."
  have hsegments : (it.resolve target).segments = it.session.current.segments.take kept := by
    rw [it.resolve_of_isUpward hslash h, Path.segments_pushAll_up h]
  have hprefix : (it.resolve target).segments <+: it.session.current.segments := hsegments ▸ List.take_prefix ..
  refine ⟨it.resolve target, it.session.current.segments.drop kept, ?_, ?_,
    hp.cd_to hw rfl (Tree.isDirectory_above hp.current hprefix)⟩
  · rw [hsegments, List.take_append_drop]
  · rw [List.length_drop, Path.length]
    omega

/-- As many `..` as a location has names behind another one lead from it to that. -/
theorem Placed.cd_back {it : Interpreter} (hp : it.Placed) {p : Path} {name : String} {names : List String}
    (h : it.session.current.segments = p.segments ++ name :: names) :
    let back := "cd " ++ join "/" (List.replicate (name :: names).length "..")
    it.Succeeds back ∧ (it.evaluate back).next = { it with session := it.session.moveTo p } := by
  intro back
  have hsplit := split_ups names.length
  have hhead : (join "/" (List.replicate (names.length + 1) "..")).toList.head? = some '.' := head?_join (by decide) _
  have hup : ∀ token ∈ split '/' (join "/" (List.replicate (names.length + 1) "..")), IsUpward token := by
    intro token ht
    rw [hsplit] at ht
    exact .inr (.inr (List.eq_of_mem_replicate ht))
  obtain ⟨ancestor, removed, hsegments, hlength, hs, hn, -⟩ :=
    hp.cd_up (isWord_ups names.length) (by simp [hhead]) hup
  -- As many names are taken off as there are behind the other location, so it is these.
  have hcount : removed.length = (name :: names).length := by
    rw [hlength, hsplit, List.count_replicate_self, Path.length, h, List.length_append, List.length_cons]
    omega
  rw [h] at hsegments
  obtain ⟨hp', -⟩ := List.append_inj' hsegments hcount.symm
  obtain rfl : p = ancestor := Path.ext hp'
  exact ⟨hs, hn⟩

/-! ## Main theorem -/

/-- From everywhere, a target of dots leads to the ancestor that lies as many names further up as it has `..`, or to
the root if there are not so many. And where names were gone down, of which the first does not start with a tilde,
as many `..` lead back to the very state from before. -/
theorem ascent_undoes_descent (it : Interpreter) (hr : it.Reachable) :
    (∀ target : String, IsWord target.toList → target.toList.head? ≠ some '/' →
      (∀ token ∈ split '/' target, token = "" ∨ token = "." ∨ token = "..") →
      ∃ (ancestor : Path) (removed : List String),
        it.session.current.segments = ancestor.segments ++ removed ∧
        removed.length = min it.session.current.length ((split '/' target).count "..") ∧
        it.Succeeds ("cd " ++ target) ∧
        (it.evaluate ("cd " ++ target)).next = { it with session := it.session.moveTo ancestor } ∧
        (it.evaluate ("cd " ++ target)).evaluation.output = []) ∧
    ∀ (name : String) (names : List String),
      (∀ n ∈ name :: names, IsSegment n ∧ ∀ c ∈ n.toList, c ≠ '/' ∧ isBlank c = false) →
      name.toList.head? ≠ some '~' → it.Succeeds ("cd " ++ join "/" (name :: names)) →
      let there := (it.evaluate ("cd " ++ join "/" (name :: names))).next
      let back := "cd " ++ join "/" (List.replicate (name :: names).length "..")
      there.session.current.segments = it.session.current.segments ++ name :: names ∧
        there.Succeeds back ∧ (there.evaluate back).next = it := by
  have hp := hr.placed
  refine ⟨fun target hw hslash h => hp.cd_up hw hslash h, ?_⟩
  intro name names h htilde hs there back
  have hnames : ∀ n ∈ name :: names, IsSegment n ∧ '/' ∉ n.toList :=
    fun n hn => ⟨(h n hn).1, fun hm => ((h n hn).2 '/' hm).1 rfl⟩
  have hword := isWord_join_names (h name (by simp)).1.1 fun n hn c hc => ((h n hn).2 c hc).2
  have hthere : there = { it with session := it.session.moveTo (it.resolve (join "/" (name :: names))) } :=
    hp.next_of_succeeds hword hs
  have hdown : there.session.current.segments = it.session.current.segments ++ name :: names := by
    rw [hthere]
    exact it.segments_resolve_join hnames htilde
  have hp' : there.Placed := hp.evaluate _
  obtain ⟨hsback, hback⟩ := hp'.cd_back hdown
  refine ⟨hdown, hsback, hback.trans ?_⟩
  rw [hthere]
  rfl

/-- The recruit goes up further than there are names, from there down by three, and back to the root. -/
theorem ascent_undoes_descent_root :
    let it : Interpreter := ⟨Bureau.tree, "recruit", "dcib", .opened (.ofTokens ["home", "recruit"])⟩
    let top := (it.evaluate ("cd " ++ "./..//../..")).next
    let there := (top.evaluate ("cd " ++ join "/" ["home", "recruit", "secure"])).next
    it.Reachable ∧ it.Succeeds ("cd " ++ "./..//../..") ∧ top.session.current = .root ∧
      top.Succeeds ("cd " ++ join "/" ["home", "recruit", "secure"]) ∧
      there.Succeeds ("cd " ++ join "/" ["..", "..", ".."]) ∧
      (there.evaluate ("cd " ++ join "/" ["..", "..", ".."])).next = top := by
  intro it top there
  have ho : opened Bureau.tree "recruit" "dcib" (.ofTokens ["home", "recruit"]) = .ok it := rfl
  have hr := Reachable.opened ho
  have hr' : top.Reachable := hr.line _
  have hdots : IsWord "./..//../..".toList := ⟨by simp, by simp; decide⟩
  have hnames : IsWord (join "/" ["home", "recruit", "secure"]).toList := isWord_join_names (by decide) (by simp; decide)
  have hs : top.Succeeds ("cd " ++ join "/" ["home", "recruit", "secure"]) :=
    (hr'.placed.succeeds_cd_iff (tokens_cd hnames)).2 ⟨[("credentials.txt", .file Bureau.credentials)], rfl⟩
  obtain ⟨hup, -⟩ := ascent_undoes_descent it hr
  obtain ⟨-, -, -, -, hsup, -⟩ := hup "./..//../.." hdots (by decide +kernel) (by decide +kernel)
  obtain ⟨-, hdown⟩ := ascent_undoes_descent top hr'
  obtain ⟨-, hsback, hback⟩ := hdown "home" ["recruit", "secure"] (by simp; decide) (by decide +kernel) hs
  exact ⟨hr, hsup, by decide +kernel, hs, hsback, hback⟩

end Interpreter

end TreeShell
