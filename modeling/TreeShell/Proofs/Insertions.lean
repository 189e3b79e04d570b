import Mathlib.Data.Finset.Card
import TreeShell.Proofs.Lookup
/-!
# Directories filled by insertions

A directory is filled by calls that each give a name a node. An insertion puts a new name last and leaves every
other where it is (`names_insert`, `names_prefix_insert`), so that after any number of calls the names are those
that were given, in the order in which they first were (`mem_names_filled`, `pairwise_names_filled`), and a name
finds what was given to it last (`get?_filled`). `filled_is_ordered_map` is all of this for every list of calls.
-/

namespace TreeShell

/-- A call that gives a name a node: any node, a file by its text, or a directory. -/
inductive Insertion where
  | put (name : String) (node : Node)
  | file (name content : String)
  | directory (name : String) (inner : Directory)

namespace Insertion

def name : Insertion → String
  | put name _ => name
  | file name _ => name
  | directory name _ => name

/-- The node that the name is given. -/
def given : Insertion → Node
  | put _ node => node
  | file _ content => .file content
  | directory _ inner => inner.toNode

end Insertion

namespace Directory

/-- What a call makes of a directory. -/
def carryOut (d : Directory) : Insertion → Directory
  | .put name node => d.insert name node
  | .file name content => d.withFile name content
  | .directory name inner => d.withDirectory name inner

/-- An empty directory after some calls. -/
def filled (calls : List Insertion) : Directory := calls.foldl carryOut empty

/-! ## One call -/

theorem carryOut_eq (d : Directory) (call : Insertion) : d.carryOut call = d.insert call.name call.given := by
  cases call <;> rfl

theorem names_prefix_insert (d : Directory) (name : String) (node : Node) : d.names <+: (d.insert name node).names := by
  rw [names_insert]
  split
  · exact List.prefix_rfl
  · exact List.prefix_append _ _

/-- A call moves no name. -/
theorem getElem?_names_carryOut {d : Directory} {i : Nat} {name : String} (h : d.names[i]? = some name)
    (call : Insertion) : (d.carryOut call).names[i]? = some name := by
  obtain ⟨more, hmore⟩ := d.names_prefix_insert call.name call.given
  obtain ⟨hi, -⟩ := List.getElem?_eq_some_iff.1 h
  rw [carryOut_eq, ← hmore, List.getElem?_append_left hi, h]

theorem get?_carryOut_of_ne {call : Insertion} {other : String} (h : other ≠ call.name) (d : Directory) :
    (d.carryOut call).get? other = d.get? other := by
  rw [carryOut_eq, get?_insert, if_neg h]

/-! ## Any number of calls -/

theorem filled_nil : filled [] = empty := rfl

theorem filled_concat (calls : List Insertion) (call : Insertion) :
    filled (calls ++ [call]) = (filled calls).insert call.name call.given := by
  rw [filled, List.foldl_append, List.foldl_cons, List.foldl_nil, carryOut_eq, filled]

theorem mem_names_filled (calls : List Insertion) (name : String) :
    name ∈ (filled calls).names ↔ name ∈ calls.map Insertion.name := by
  induction calls using List.reverseRecOn with
  | nil => simp [filled_nil, names, empty]
  | append_singleton calls call ih =>
    rw [filled_concat, names_insert, List.map_append, List.mem_append, ← ih]
    split
    · next h =>
      -- The name of the last call was there already.
      simp only [List.map_cons, List.map_nil, List.mem_singleton, iff_self_or]
      rintro rfl
      exact h
    · simp

theorem nodup_names_filled (calls : List Insertion) : (filled calls).names.Nodup := by
  induction calls using List.reverseRecOn with
  | nil => exact .nil
  | append_singleton calls call ih =>
    rw [filled_concat]
    exact nodup_names_insert ih _ _

/-- One name stands before another where it was given earlier for the first time. -/
theorem pairwise_names_filled (calls : List Insertion) :
    (filled calls).names.Pairwise fun a b =>
      (calls.map Insertion.name).idxOf a < (calls.map Insertion.name).idxOf b := by
  induction calls using List.reverseRecOn with
  | nil => exact .nil
  | append_singleton calls call ih =>
    -- Where a name was first given does not change with what comes later.
    have hkept : ∀ a ∈ (filled calls).names,
        ((calls ++ [call]).map Insertion.name).idxOf a = (calls.map Insertion.name).idxOf a := by
      intro a ha
      rw [List.map_append, List.idxOf_append_of_mem ((mem_names_filled ..).1 ha)]
    have hold : (filled calls).names.Pairwise fun a b =>
        ((calls ++ [call]).map Insertion.name).idxOf a < ((calls ++ [call]).map Insertion.name).idxOf b := by
      refine ih.imp_of_mem ?_
      intro a b ha hb h
      rwa [hkept a ha, hkept b hb]
    rw [filled_concat, names_insert]
    split
    · exact hold
    · next hnew =>
      refine List.pairwise_append.2 ⟨hold, List.pairwise_singleton .., ?_⟩
      intro a ha b hb
      obtain rfl := List.mem_singleton.1 hb
      have hearly : (calls.map Insertion.name).idxOf a < (calls.map Insertion.name).length :=
        List.idxOf_lt_length_iff.2 ((mem_names_filled ..).1 ha)
      have hlate : call.name ∉ calls.map Insertion.name := fun h => hnew ((mem_names_filled ..).2 h)
      rw [hkept a ha, List.map_append, List.idxOf_append_of_notMem hlate]
      omega

/-- A name finds what the last call under it gave. -/
theorem get?_filled (calls : List Insertion) (name : String) :
    (filled calls).get? name = (calls.reverse.find? fun call => call.name = name).map Insertion.given := by
  induction calls using List.reverseRecOn with
  | nil => rfl
  | append_singleton calls call ih =>
    rw [filled_concat, get?_insert, List.reverse_concat, List.find?_cons, ih]
    by_cases h : call.name = name
    · simp [h]
    · simp [h, Ne.symm h]

theorem get?_filled_eq_some_iff (calls : List Insertion) (name : String) (node : Node) :
    (filled calls).get? name = some node ↔
      ∃ before call after, calls = before ++ call :: after ∧ call.name = name ∧ call.given = node ∧
        ∀ later ∈ after, later.name ≠ name := by
  rw [get?_filled, Option.map_eq_some_iff]
  simp only [List.find?_eq_some_iff_append]
  constructor
  · rintro ⟨call, ⟨hname, after, before, hcalls, hlater⟩, rfl⟩
    refine ⟨before.reverse, call, after.reverse, ?_, by simpa using hname, rfl, by simpa using hlater⟩
    rw [← List.reverse_reverse calls, hcalls]
    simp
  · rintro ⟨before, call, after, rfl, hname, rfl, hlater⟩
    exact ⟨call, ⟨by simpa using hname, after.reverse, before.reverse, by simp, by simpa using hlater⟩, rfl⟩

theorem get?_filled_eq_none_iff (calls : List Insertion) (name : String) :
    (filled calls).get? name = none ↔ name ∉ calls.map Insertion.name := by
  rw [get?_filled, Option.map_eq_none_iff, List.find?_eq_none]
  simp

/-! ## Counting and hiding -/

theorem size_filled (calls : List Insertion) : (filled calls).size = (calls.map Insertion.name).toFinset.card := by
  have hnames : (filled calls).names.toFinset = (calls.map Insertion.name).toFinset := by
    ext name
    simp only [List.mem_toFinset, mem_names_filled]
  rw [← hnames, List.toFinset_card_of_nodup (nodup_names_filled calls), names, List.length_map, size]

theorem isEmpty_filled (calls : List Insertion) : (filled calls).isEmpty = true ↔ calls = [] := by
  have hnames : (filled calls).isEmpty = true ↔ ∀ name, name ∉ (filled calls).names := by
    rw [isEmpty, List.isEmpty_iff, ← List.eq_nil_iff_forall_not_mem, names, List.map_eq_nil_iff]
  simp only [hnames, mem_names_filled]
  rw [← List.eq_nil_iff_forall_not_mem, List.map_eq_nil_iff]

theorem visibleNames_sublist (d : Directory) : d.visibleNames.Sublist d.names := List.filter_sublist

theorem mem_visibleNames (d : Directory) (name : String) :
    name ∈ d.visibleNames ↔ name ∈ d.names ∧ name.toList.head? ≠ some '.' := by
  simp [visibleNames, Name.isHidden]

/-! ## Main theorem -/

/-- However an empty directory was filled, it is a map that keeps the order of first insertion: it lists each name
that was given once, before those that were first given later, and a name finds the node of the last call under it,
and none if there was no such call. Its size counts the different names, its visible names are those without a
leading dot in the same order, and one more call moves no name and changes no other name's node. -/
theorem filled_is_ordered_map (calls : List Insertion) :
    let d := filled calls
    let given := calls.map Insertion.name
    (d.names.Nodup ∧ (∀ name, name ∈ d.names ↔ name ∈ given) ∧
      d.names.Pairwise fun a b => given.idxOf a < given.idxOf b) ∧
    (∀ name node, d.get? name = some node ↔
      ∃ before call after, calls = before ++ call :: after ∧ call.name = name ∧ call.given = node ∧
        ∀ later ∈ after, later.name ≠ name) ∧
    (∀ name, d.get? name = none ↔ name ∉ given) ∧
    (∀ name, d.contains name = true ↔ ∃ node, d.get? name = some node) ∧
    d.size = given.toFinset.card ∧
    (d.isEmpty = true ↔ calls = []) ∧
    (d.visibleNames.Sublist d.names ∧
      ∀ name, name ∈ d.visibleNames ↔ name ∈ d.names ∧ name.toList.head? ≠ some '.') ∧
    ∀ call : Insertion,
      (∀ (i : Nat) (name : String), d.names[i]? = some name → (d.carryOut call).names[i]? = some name) ∧
        ∀ other, other ≠ call.name → (d.carryOut call).get? other = d.get? other := by
  intro d given
  refine ⟨⟨nodup_names_filled calls, mem_names_filled calls, pairwise_names_filled calls⟩,
    get?_filled_eq_some_iff calls, get?_filled_eq_none_iff calls, ?_, size_filled calls, isEmpty_filled calls,
    ⟨d.visibleNames_sublist, d.mem_visibleNames⟩, ?_⟩
  · intro name
    rw [contains, Option.isSome_iff_exists]
  · intro call
    exact ⟨fun _ _ h => getElem?_names_carryOut h call, fun _ h => get?_carryOut_of_ne h d⟩

/-- A file is given anew as a directory, and a hidden file comes after. -/
theorem filled_is_ordered_map_replaced :
    let calls : List Insertion := [.file "a" "1", .put "b" (.file "2"), .directory "a" empty]
    let d := filled calls
    d.names[0]? = some "a" ∧ "b" ≠ ".c" ∧ d.get? "a" = some (.directory []) ∧ d.size = 2 ∧
      (d.carryOut (.file ".c" "3")).names[0]? = some "a" ∧
      (d.carryOut (.file ".c" "3")).get? "b" = d.get? "b" := by
  intro calls d
  obtain ⟨-, hget, -, -, hsize, -, -, hcall⟩ := filled_is_ordered_map calls
  obtain ⟨hplace, hother⟩ := hcall (.file ".c" "3")
  have hfirst : d.names[0]? = some "a" := by decide +kernel
  have hlast : d.get? "a" = some (.directory []) :=
    (hget ..).2 ⟨[.file "a" "1", .put "b" (.file "2")], .directory "a" empty, [], rfl, rfl, rfl, by simp⟩
  exact ⟨hfirst, by decide, hlast, hsize.trans (by decide +kernel), hplace 0 "a" hfirst, hother "b" (by decide)⟩

end Directory

end TreeShell
