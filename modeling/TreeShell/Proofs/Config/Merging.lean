import TreeShell.Proofs.Config.Keys
import TreeShell.Proofs.Config.Values
/-!
# Adding layers

To put a value at a path of keys is to merge the table that has nothing else (`setAt_eq_onto`), and to add a layer
is to merge the table of its values if its keys are names and not paths (`addLayer_eq_onto`). A value that is put
elsewhere changes nothing (`at?_setAt_of_misses`).
-/

namespace TreeShell.Config

open Text

namespace Value

/-! ## Paths of keys -/

/-- The table that has nothing but a value at the end of a row of keys. -/
def nest : List String → Value → Value
  | [], v => v
  | k :: ks, v => table none [(k, nest ks v)]

theorem keyed_nest {q : List String} (hq : ∀ k ∈ q, lower k = k) {v : Value} (hv : v.Throughout Keyed) :
    (nest q v).Throughout Keyed := by
  induction q with
  | nil => exact hv
  | cons k ks ih =>
    have hrest := ih fun x hx => hq x (by simp [hx])
    exact keyed_emptyTable.put hrest (keyed_emptyTable.here.put (hq k (by simp)) _)

/-- A nested table has a place at the end of another row of keys, if it has one. -/
theorem at?_nest {P : Value → Prop} (hP : ∀ v, P v → v.isTable = false) {v : Value} (hv : v.isTable = false) :
    ∀ {q r : List String}, (nest q v).Fits P r → (nest q v).at? r = if q = r then some v else none
  | [], [], _ => by simp [nest]
  | [], _ :: _, h => by simp [nest, Fits, hv] at h
  | _ :: _, [], h => by simpa [nest, isTable] using hP _ h
  | k :: ks, l :: ls, h => by
    rw [nest, at?_cons, get?_table_cons]
    by_cases hk : k = l
    · subst hk
      have hrest := at?_nest hP hv (h.2 (nest ks v) (by rw [nest, get?_table_cons, if_pos rfl]))
      rw [if_pos rfl, Option.bind_some, hrest]
      simp
    · rw [if_neg hk, get?_table_nil]
      simp [hk]

theorem changeAt_eq_onto {q : List String} (hq : ∀ x ∈ q, lower x = x) (k : String) (root v : Value) :
    changeAt (·.set k v) (q.map .key) root = (nest (q ++ [k]) v).onto (some root) := by
  induction q generalizing root with
  | nil => rfl
  | cons x q ih =>
    have hx : lower x = x := hq x (by simp)
    -- The rest of the row is merged into what is under the first key, or into a new table.
    have hrest : (nest (q ++ [k]) v).onto (some ((root.get? x).getD nil)) = (nest (q ++ [k]) v).onto (root.get? x) := by
      cases hget : root.get? x with
      | some w => rfl
      | none =>
        obtain ⟨y, w, hnest⟩ : ∃ y w, nest (q ++ [k]) v = table none [(y, w)] := by
          cases q with
          | nil => exact ⟨_, _, rfl⟩
          | cons y q => exact ⟨_, _, rfl⟩
        simp only [hnest, onto, merge, set_eq]
        rfl
    rw [List.map_cons, changeAt, changeKey, hx, ih fun y hy => hq y (by simp [hy]), hrest, List.cons_append, nest, onto,
      merge, merge, set_eq, hx]
    rfl

/-- To put a value at a path of keys is to merge a nested table. -/
theorem setAt_eq_onto {path : KeyPath} {q : List String} (hsteps : path.steps = q.map .key)
    (hq : ∀ k ∈ q, lower k = k) (root v : Value) : root.setAt path v = (nest q v).onto (some root) := by
  obtain ⟨way, last⟩ := path
  obtain ⟨ks, ends, rfl, rfl, hends⟩ := List.map_eq_append_iff.1 hsteps.symm
  obtain ⟨k, rfl, rfl⟩ := List.map_eq_singleton_iff.1 hends
  exact changeAt_eq_onto (fun x hx => hq x (by simp [hx])) k root v

theorem at?_onto_nest {q : List String} (hq : ∀ k ∈ q, lower k = k) {v : Value} (hv : v.isTable = false)
    (old : Option Value) : ((nest q v).onto old).at? q = some v := by
  induction q generalizing old with
  | nil => rw [nest, onto_of_not_isTable hv, at?_nil]
  | cons k ks ih =>
    rw [nest, onto, merge, merge, set_eq, hq k (by simp), at?_put, if_pos rfl]
    exact ih (fun x hx => hq x (by simp [hx])) _

/-- A value that is no table is found where it was put, whatever was there. -/
theorem at?_setAt_self {path : KeyPath} {q : List String} (hsteps : path.steps = q.map .key)
    (hq : ∀ k ∈ q, lower k = k) (root : Value) {v : Value} (hv : v.isTable = false) : (root.setAt path v).at? q = some v := by
  rw [setAt_eq_onto hsteps hq, at?_onto_nest hq hv]

/-- The steps do not lead to a row of keys, to a place on the way to it, or to one behind it. -/
def Misses : List Step → List String → Prop
  | .key name :: steps, k :: ks => lower name ≠ k ∨ Misses steps ks
  | _, _ => False

theorem at?_put_of_ne {v value : Value} {key k : String} (h : key ≠ k) (ks : List String) :
    (v.put key value).at? (k :: ks) = v.at? (k :: ks) := by rw [at?_put, if_neg h]

theorem Misses.exists_cons {steps : List Step} {q : List String} (h : Misses steps q) :
    ∃ name rest k ks, steps = .key name :: rest ∧ q = k :: ks ∧ (lower name ≠ k ∨ Misses rest ks) := by
  match steps, q, h with
  | .key name :: rest, k :: ks, h => exact ⟨name, rest, k, ks, rfl, rfl, h⟩

/-- A value that is put elsewhere changes nothing at the end of a row of keys. -/
theorem at?_setAt_of_misses {path : KeyPath} {q : List String} (h : Misses path.steps q) (root v : Value) :
    (root.setAt path v).at? q = root.at? q := by
  obtain ⟨way, last⟩ := path
  rw [setAt]
  rw [KeyPath.steps] at h
  dsimp only at h ⊢
  induction way generalizing root q with
  | nil =>
    obtain ⟨name, rest, k, ks, hsteps, rfl, hne⟩ := h.exists_cons
    obtain ⟨rfl, rfl⟩ := List.cons.inj hsteps
    have hne : lower name ≠ k := hne.resolve_right fun hnil => by
      obtain ⟨_, _, _, _, hnil, -⟩ := hnil.exists_cons
      cases hnil
    exact (congrArg (·.at? (k :: ks)) (set_eq root name v)).trans (at?_put_of_ne hne ks)
  | cons step way ih =>
    obtain ⟨name, rest, k, ks, hsteps, rfl, hne⟩ := h.exists_cons
    obtain ⟨rfl, rfl⟩ := List.cons.inj hsteps
    rw [changeAt, changeKey]
    by_cases hk : lower name = k
    · have hrest := hne.resolve_left fun h => h hk
      obtain ⟨_, _, l, ls, -, rfl, -⟩ := hrest.exists_cons
      rw [at?_put, if_pos hk, ih _ hrest, hk, at?_cons root]
      cases root.get? k <;> rfl
    · rw [at?_put_of_ne hk]

/-! ## Layers -/

/-- A key that is a name in a table, not a path into one. -/
def IsSingle (key : String) : Prop := (KeyPath.ofText key).steps = [.key key] ∧ lower key = key

theorem isSingle_of_isPlain {k : String} (h : IsPlain k) : IsSingle k := by
  have hsteps : (KeyPath.ofText (join "." [k])).steps = [.key k] :=
    KeyPath.steps_ofText_join fun x hx => List.mem_singleton.1 hx ▸ h.isKey
  exact ⟨by simpa [join] using hsteps, h.lower_eq⟩

theorem addLayer_cons (root : Value) (key : String) (v : Value) (rest : Layer) :
    root.addLayer ((key, v) :: rest) = (root.setAt (.ofText key) v).addLayer rest := rfl

/-- To add a layer whose keys are names is to merge its table. -/
theorem addLayer_eq_onto {layer : Layer} (h : ∀ entry ∈ layer, IsSingle entry.1) (origin : Option String) (root : Value) :
    root.addLayer layer = (table origin layer).onto (some root) := by
  rw [onto, Option.getD_some]
  induction layer generalizing root with
  | nil => rfl
  | cons entry rest ih =>
    obtain ⟨key, v⟩ := entry
    have hkey := h (key, v) (by simp)
    have hset : root.setAt (.ofText key) v = root.set key v := by
      have hsteps : (KeyPath.ofText key).steps = [key].map .key := hkey.1
      rw [setAt_eq_onto hsteps (by simpa using hkey.2)]
      rfl
    rw [addLayer_cons, hset, ih (fun e he => h e (by simp [he])), merge]

theorem keyed_addLayer {root : Value} (h : root.Throughout Keyed) (layer : Layer) :
    (root.addLayer layer).Throughout Keyed := by
  induction layer generalizing root with
  | nil => exact h
  | cons entry rest ih => exact ih (keyed_setAt h _ _)

theorem keyed_layers (layers : List Layer) {root : Value} (h : root.Throughout Keyed) :
    (layers.foldl addLayer root).Throughout Keyed := by
  induction layers generalizing root with
  | nil => exact h
  | cons layer rest ih => exact ih (keyed_addLayer h layer)

/-- What the defaults alone come to. -/
def defaults : Value := emptyTable.addLayer defaultLayer

/-! ## The keys of a configuration -/

/-- A path can add one key to a table: its first one. -/
theorem mem_keys_setAt {root v : Value} {path : KeyPath} {k : String} (h : k ∈ (root.setAt path v).keys) :
    k ∈ root.keys ∨ ∃ name, path.steps.head? = some (.key name) ∧ k = lower name := by
  obtain ⟨way, last⟩ := path
  rw [setAt] at h
  dsimp only [KeyPath.steps] at h ⊢
  cases way with
  | nil =>
    cases last with
    | key name =>
      have hput : k ∈ (root.set name v).keys := h
      rw [set_eq] at hput
      exact (mem_keys_put hput).imp_right fun hk => ⟨name, rfl, hk⟩
    | index n => cases h
  | cons step rest =>
    cases step with
    | key name => exact (mem_keys_put h).imp_right fun hk => ⟨name, rfl, hk⟩
    | index n => cases h

/-- A key whose first name, in lower case, is a name in a table. -/
def IsSettled (key : String) : Prop := ∀ name, (KeyPath.ofText key).steps.head? = some (.key name) → IsSingle (lower name)

theorem isSettled_of_steps {key k : String} {rest : List Step} (hk : IsPlain k)
    (hsteps : (KeyPath.ofText key).steps = .key k :: rest) : IsSettled key := by
  intro name hname
  rw [hsteps] at hname
  cases hname
  exact hk.lower_eq.symm ▸ isSingle_of_isPlain hk

theorem isSingle_of_mem_keys_addLayer {layer : Layer} (h : ∀ entry ∈ layer, IsSettled entry.1) {root : Value}
    (hroot : ∀ k ∈ root.keys, IsSingle k) : ∀ k ∈ (root.addLayer layer).keys, IsSingle k := by
  induction layer generalizing root with
  | nil => exact hroot
  | cons entry rest ih =>
    refine ih (fun e he => h e (by simp [he])) fun k hk => ?_
    rcases mem_keys_setAt hk with hk | ⟨name, hname, rfl⟩
    · exact hroot k hk
    · exact h entry (by simp) name hname

/-- No path makes a key of the top that would be taken for a path. -/
theorem isSingle_of_mem_keys_layers {layers : List Layer} (h : ∀ layer ∈ layers, ∀ entry ∈ layer, IsSettled entry.1)
    {root : Value} (hroot : ∀ k ∈ root.keys, IsSingle k) : ∀ k ∈ (layers.foldl addLayer root).keys, IsSingle k := by
  induction layers generalizing root with
  | nil => exact hroot
  | cons layer rest ih =>
    exact ih (fun l hl => h l (by simp [hl])) (isSingle_of_mem_keys_addLayer (h layer (by simp)) hroot)

end Value

end TreeShell.Config
