import TreeShell.Config.KeyPath
import TreeShell.Proofs.LowerCase
/-!
# Values behind rows of keys

What a row of keys leads to (`Value.at?`) after a value was set, merged or put at a path. Two values are compared
by what is found behind such rows, never by the order of their entries. `Value.onto` says what becomes of a place
that a value is merged into, and `Fits.onto` is the main fact about it: where nothing stands in the way of a row
of keys, its end is that of the upper value, or else that of the lower one.
-/

namespace TreeShell.Config

open Text

namespace Value

/-! ## Keys of a table -/

@[simp] theorem entries_table (origin : Option String) (entries : List (String × Value)) :
    (table origin entries).entries = entries := rfl

theorem get?_table_nil (origin : Option String) (k : String) : (table origin []).get? k = none := rfl

theorem get?_table_cons (origin : Option String) (key : String) (v : Value) (rest : List (String × Value)) (k : String) :
    (table origin ((key, v) :: rest)).get? k = if key = k then some v else (table origin rest).get? k := by
  simp only [get?, entries_table, List.find?_cons]
  split <;> simp_all

theorem mem_of_get? {v w : Value} {k : String} (h : v.get? k = some w) : (k, w) ∈ v.entries := by
  obtain ⟨entry, hfound, rfl⟩ := Option.map_eq_some_iff.1 h
  have hk : entry.1 = k := by simpa using List.find?_some hfound
  exact hk ▸ List.mem_of_find?_eq_some hfound

theorem get?_putEntry (key : String) (value : Value) (entries : List (String × Value)) (origin : Option String)
    (k : String) :
    (table origin (putEntry key value entries)).get? k = if key = k then some value else (table origin entries).get? k := by
  induction entries with
  | nil => rw [putEntry, get?_table_cons]
  | cons entry rest ih =>
    obtain ⟨name, v⟩ := entry
    rw [putEntry]
    split
    · next h => subst h; rw [get?_table_cons, get?_table_cons]; split <;> rfl
    · next h =>
      rw [get?_table_cons, get?_table_cons, ih]
      by_cases hk : name = k
      · rw [if_pos hk, if_pos hk, if_neg fun heq => h (hk.trans heq.symm)]
      · rw [if_neg hk, if_neg hk]

theorem get?_put (v : Value) (key : String) (value : Value) (k : String) :
    (v.put key value).get? k = if key = k then some value else v.get? k := by
  rw [put, get?_putEntry]
  rfl

/-- The keys of a table. -/
def keys (v : Value) : List String := v.entries.map Prod.fst

theorem keys_putEntry (key : String) (value : Value) (entries : List (String × Value)) :
    (putEntry key value entries).map Prod.fst =
      if key ∈ entries.map Prod.fst then entries.map Prod.fst else entries.map Prod.fst ++ [key] := by
  induction entries with
  | nil => rfl
  | cons entry rest ih =>
    obtain ⟨name, v⟩ := entry
    rw [putEntry]
    split
    · next h => simp [h]
    · next h =>
      have hk : key ≠ name := fun hk => h hk.symm
      simp only [List.map_cons, ih, List.mem_cons, hk, false_or]
      split <;> rfl

theorem keys_put (v : Value) (key : String) (value : Value) :
    (v.put key value).keys = if key ∈ v.keys then v.keys else v.keys ++ [key] := keys_putEntry ..

theorem get?_eq_none {v : Value} {k : String} (h : k ∉ v.keys) : v.get? k = none := by
  simp only [get?, Option.map_eq_none_iff, List.find?_eq_none, decide_eq_true_eq]
  rintro entry hentry rfl
  exact h (List.mem_map_of_mem hentry)

/-! ## Rows of keys -/

/-- The value that a row of keys leads to. -/
def at? : Value → List String → Option Value
  | v, [] => some v
  | v, k :: ks => (v.get? k).bind fun w => w.at? ks

@[simp] theorem at?_nil (v : Value) : v.at? [] = some v := by rw [at?]

theorem at?_cons (v : Value) (k : String) (ks : List String) : v.at? (k :: ks) = (v.get? k).bind (·.at? ks) := by rw [at?]

theorem at?_singleton (v : Value) (k : String) : v.at? [k] = v.get? k := by
  rw [at?_cons]
  cases v.get? k <;> simp

theorem at?_put (v : Value) (key : String) (value : Value) (k : String) (ks : List String) :
    (v.put key value).at? (k :: ks) = if key = k then value.at? ks else v.at? (k :: ks) := by
  rw [at?_cons, get?_put, at?_cons]
  split <;> rfl

/-- A property of a value and of everything that rows of keys lead to in it. -/
def Throughout (P : Value → Prop) (v : Value) : Prop := ∀ q w, v.at? q = some w → P w

variable {P : Value → Prop}

theorem Throughout.here {v : Value} (h : v.Throughout P) : P v := h [] v (at?_nil v)

theorem Throughout.get? {v w : Value} (h : v.Throughout P) {k : String} (hk : v.get? k = some w) : w.Throughout P := by
  intro q x hx
  exact h (k :: q) x (by rw [at?_cons, hk]; exact hx)

theorem throughout_of_entries_nil {v : Value} (hv : P v) (h : v.entries = []) : v.Throughout P := by
  intro q w hw
  cases q with
  | nil => exact (Option.some.inj ((at?_nil v).symm.trans hw)) ▸ hv
  | cons k q => simp [at?_cons, Value.get?, h] at hw

theorem throughout_table {origin : Option String} {entries : List (String × Value)} (h : P (table origin entries))
    (hentries : ∀ entry ∈ entries, entry.2.Throughout P) : (table origin entries).Throughout P := by
  intro q w hw
  cases q with
  | nil => exact (Option.some.inj ((at?_nil _).symm.trans hw)) ▸ h
  | cons k q =>
    obtain ⟨child, hchild, hw⟩ := Option.bind_eq_some_iff.1 ((at?_cons _ k q).symm.trans hw)
    exact hentries _ (mem_of_get? hchild) q w hw

theorem Throughout.put {v value : Value} {key : String} (h : v.Throughout P) (hvalue : value.Throughout P)
    (hput : P (v.put key value)) : (v.put key value).Throughout P := by
  intro q w hw
  cases q with
  | nil => exact (Option.some.inj ((at?_nil _).symm.trans hw)) ▸ hput
  | cons k q =>
    rw [at?_put] at hw
    split at hw
    · exact hvalue q w hw
    · exact h (k :: q) w hw

/-! ## Keys in lower case, each one once -/

/-- The keys of a table are in lower case, and none stands twice. -/
structure Keyed (v : Value) : Prop where
  nodup : v.keys.Nodup
  lower_eq : ∀ k ∈ v.keys, lower k = k

theorem keyed_of_entries_nil {v : Value} (h : v.entries = []) : v.Keyed :=
  ⟨by simp [keys, h], by simp [keys, h]⟩

theorem keyed_emptyTable : emptyTable.Throughout Keyed := throughout_of_entries_nil (keyed_of_entries_nil rfl) rfl

theorem nodup_keys_put {v : Value} (h : v.keys.Nodup) (key : String) (value : Value) : (v.put key value).keys.Nodup := by
  rw [keys_put]
  split
  · exact h
  · next hmem =>
    refine List.nodup_append.2 ⟨h, by simp, ?_⟩
    rintro a ha b hb rfl
    exact hmem (List.mem_singleton.1 hb ▸ ha)

theorem mem_keys_put {v value : Value} {key k : String} (h : k ∈ (v.put key value).keys) : k ∈ v.keys ∨ k = key := by
  rw [keys_put] at h
  split at h
  · exact .inl h
  · exact (List.mem_append.1 h).imp_right List.mem_singleton.1

theorem Keyed.put {v : Value} (h : v.Keyed) {key : String} (hkey : lower key = key) (value : Value) :
    (v.put key value).Keyed := by
  refine ⟨nodup_keys_put h.nodup key value, fun k hk => ?_⟩
  rcases mem_keys_put hk with hk | rfl
  · exact h.lower_eq k hk
  · exact hkey

theorem get?_of_mem {entries : List (String × Value)} (h : (entries.map Prod.fst).Nodup) (origin : Option String)
    {k : String} {w : Value} (hk : (k, w) ∈ entries) : (table origin entries).get? k = some w := by
  induction entries with
  | nil => cases hk
  | cons entry rest ih =>
    obtain ⟨key, v⟩ := entry
    rw [get?_table_cons]
    rcases List.mem_cons.1 hk with heq | hrest
    · cases heq
      exact if_pos rfl
    · have hne : key ≠ k := by
        rintro rfl
        exact (List.nodup_cons.1 h).1 (List.mem_map.2 ⟨_, hrest, rfl⟩)
      rw [if_neg hne, ih (List.nodup_cons.1 h).2 hrest]

/-! ## Merging -/

/-- What a value becomes in the place of another: a table is merged into it, anything else stays itself. -/
def onto (old : Option Value) : Value → Value
  | table _ entries => merge (old.getD emptyTable) entries
  | v => v

/-- To set a key is to put the new value, merged into the old one, under the key in lower case. -/
theorem set_eq (root : Value) (key : String) (v : Value) :
    root.set key v = root.put (lower key) (v.onto (root.get? (lower key))) := by
  cases v with
  | scalar origin content => rfl
  | list origin items => rfl
  | table origin entries => rfl

/-- Under each key the entries are merged into what the target has there. -/
theorem get?_merge {entries : List (String × Value)} {origin : Option String} (h : (table origin entries).Keyed)
    (target : Value) (k : String) :
    (merge target entries).get? k =
      (((table origin entries).get? k).map (onto (target.get? k))).or (target.get? k) := by
  induction entries generalizing target with
  | nil => rw [merge]; rfl
  | cons entry rest ih =>
    obtain ⟨key, v⟩ := entry
    have hkey : lower key = key := h.lower_eq key (by simp [keys])
    have hrest : (table origin rest).Keyed :=
      ⟨(List.nodup_cons.1 h.nodup).2, fun k hk => h.lower_eq k (List.mem_cons_of_mem _ hk)⟩
    rw [merge, ih hrest, set_eq, hkey, get?_put, get?_table_cons]
    split
    · next heq =>
      have hnone : (table origin rest).get? k = none := get?_eq_none (heq ▸ (List.nodup_cons.1 h.nodup).1)
      rw [hnone, heq]
      rfl
    · rfl

mutual
/-- Whatever is put into a value with keys in lower case, they stay so. -/
theorem keyed_onto : ∀ (v : Value) {old : Option Value}, (∀ w, old = some w → w.Throughout Keyed) →
    (v.onto old).Throughout Keyed
  | scalar .., _, _ => throughout_of_entries_nil (keyed_of_entries_nil rfl) rfl
  | list .., _, _ => throughout_of_entries_nil (keyed_of_entries_nil rfl) rfl
  | table _ entries, old, h => by
    have htarget : (old.getD emptyTable).Throughout Keyed := by
      cases old with
      | none => exact keyed_emptyTable
      | some w => exact h w rfl
    exact keyed_merge entries htarget
termination_by structural v => v

theorem keyed_merge : ∀ (entries : List (String × Value)) {target : Value}, target.Throughout Keyed →
    (merge target entries).Throughout Keyed
  | [], _, h => h
  | (key, v) :: rest, target, h => by
    rw [merge, set_eq]
    have hv := keyed_onto v fun w (hw : target.get? (lower key) = some w) => h.get? hw
    exact keyed_merge rest (h.put hv (h.here.put (lower_lower key) _))
termination_by structural entries => entries
end

theorem keyed_set {root : Value} (h : root.Throughout Keyed) (key : String) (v : Value) :
    (root.set key v).Throughout Keyed := by
  rw [set_eq]
  exact h.put (keyed_onto v fun w hw => h.get? hw) (h.here.put (lower_lower key) _)

theorem keyed_changeAt {change : Value → Value} (hchange : ∀ v, v.Throughout Keyed → (change v).Throughout Keyed)
    (way : List Step) {v : Value} (h : v.Throughout Keyed) : (changeAt change way v).Throughout Keyed := by
  induction way generalizing v with
  | nil => exact hchange v h
  | cons step rest ih =>
    cases step with
    | key name =>
      have hchild : ((v.get? (lower name)).getD nil).Throughout Keyed := by
        cases hget : v.get? (lower name) with
        | none => exact throughout_of_entries_nil (keyed_of_entries_nil rfl) rfl
        | some w => exact h.get? hget
      exact h.put (ih hchild) (h.here.put (lower_lower name) _)
    | index n => exact throughout_of_entries_nil (keyed_of_entries_nil rfl) rfl

theorem keyed_setAt {root : Value} (h : root.Throughout Keyed) (path : KeyPath) (v : Value) :
    (root.setAt path v).Throughout Keyed := by
  refine keyed_changeAt (fun w hw => ?_) path.way h
  split
  · exact keyed_set hw _ _
  · exact throughout_of_entries_nil (keyed_of_entries_nil rfl) rfl

/-! ## Merging, seen from the end of a row of keys -/

def isTable : Value → Bool
  | table .. => true
  | _ => false

theorem isTable_of_get? {v w : Value} {k : String} (h : v.get? k = some w) : v.isTable = true := by
  cases v with
  | table => rfl
  | _ => cases h

theorem exists_table_of_isTable {v : Value} (h : v.isTable = true) : ∃ origin entries, v = table origin entries := by
  cases v with
  | table origin entries => exact ⟨origin, entries, rfl⟩
  | _ => cases h

/-- Nothing stands in the way of a row of keys, and what it leads to, if anything, has a property. -/
def Fits (P : Value → Prop) : Value → List String → Prop
  | v, [] => P v
  | v, k :: ks => v.isTable = true ∧ ∀ w, v.get? k = some w → w.Fits P ks

theorem isTable_merge {entries : List (String × Value)} {target : Value} (h : target.isTable = true) :
    (merge target entries).isTable = true := by
  induction entries generalizing target with
  | nil => exact h
  | cons entry rest ih =>
    rw [merge, set_eq]
    exact ih rfl

theorem onto_of_not_isTable {v : Value} (h : v.isTable = false) (old : Option Value) : v.onto old = v := by
  cases v with
  | table => cases h
  | _ => rfl

theorem Fits.of_at? {v : Value} {q : List String} (h : v.Fits P q) {w : Value} (hw : v.at? q = some w) : P w := by
  induction q generalizing v with
  | nil => exact Option.some.inj ((at?_nil v).symm.trans hw) ▸ h
  | cons k q ih =>
    obtain ⟨child, hchild, hw⟩ := Option.bind_eq_some_iff.1 ((at?_cons v k q).symm.trans hw)
    exact ih (h.2 child hchild) hw

/-- Merging keeps what fits, and at the end of the row is then what the merged value has there, or else the old one. -/
theorem Fits.onto {q : List String} (hP : ∀ v, P v → v.isTable = false) :
    ∀ {v : Value} {old : Option Value}, v.Throughout Keyed → v.Fits P q → (∀ w, old = some w → w.Fits P q) →
      (v.onto old).Fits P q ∧ (v.onto old).at? q = (v.at? q).or (old.bind (·.at? q)) := by
  induction q with
  | nil =>
    intro v old _ hv _
    rw [onto_of_not_isTable (hP v hv)]
    exact ⟨hv, by simp⟩
  | cons k q ih =>
    intro v old hkeyed hv hold
    obtain ⟨htable, hv⟩ := hv
    obtain ⟨origin, entries, rfl⟩ := exists_table_of_isTable htable
    have htarget : (old.getD emptyTable).isTable = true ∧ ∀ w, (old.getD emptyTable).get? k = some w → w.Fits P q := by
      cases old with
      | none => exact ⟨rfl, fun w hw => nomatch hw⟩
      | some w => exact hold w rfl
    -- A place without a value is merged into like an empty table.
    have hbind : old.bind (·.at? (k :: q)) = (old.getD emptyTable).at? (k :: q) := by cases old <;> rfl
    have hget := get?_merge hkeyed.here (old.getD emptyTable) k
    rw [hbind, at?_cons, at?_cons, at?_cons, Value.onto, hget]
    cases hchild : (table origin entries).get? k with
    | none =>
      refine ⟨⟨isTable_merge htarget.1, fun w hw => ?_⟩, rfl⟩
      rw [hget, hchild] at hw
      exact htarget.2 w hw
    | some child =>
      obtain ⟨hfits, hat⟩ := ih (hkeyed.get? hchild) (hv child hchild) htarget.2
      refine ⟨⟨isTable_merge htarget.1, fun w hw => ?_⟩, hat⟩
      rw [hget, hchild] at hw
      exact Option.some.inj hw ▸ hfits

theorem Fits.onto_some {q : List String} (hP : ∀ v, P v → v.isTable = false) {v root : Value}
    (hkeyed : v.Throughout Keyed) (hv : v.Fits P q) (hroot : root.Fits P q) :
    (v.onto (some root)).Fits P q ∧ (v.onto (some root)).at? q = (v.at? q).or (root.at? q) :=
  Fits.onto hP hkeyed hv fun _ hw => Option.some.inj hw ▸ hroot

end Value

end TreeShell.Config
