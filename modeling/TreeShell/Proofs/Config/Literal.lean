import TreeShell.Proofs.Config.Loading
import TreeShell.Proofs.Config.Merging
import TreeShell.Proofs.Config.Sections
/-!
# Texts from the environment

A variable is read as a truth value or a number if it looks like one, and a field of text turns that back into a
text. So a field has the very text of its variable exactly if that text is written as it would be shown
(`IsLiteral`, `get_eq_iff_isLiteral`).
-/

namespace TreeShell.Config

open Text Number Value

/-- A field of text that has a value from the start. -/
inductive TextField where
  | user
  | host
  | level
  | format
  | output

namespace TextField

def sectionName : TextField → String
  | user | host => "terminal"
  | level | format | output => "logging"

def name : TextField → String
  | user => "user"
  | host => "host"
  | level => "level"
  | format => "format"
  | output => "output"

/-- The keys that lead to the field. -/
def row (f : TextField) : List String := [f.sectionName, f.name]

def get (s : Settings) : TextField → String
  | user => s.session.user
  | host => s.session.host
  | level => s.log.level
  | format => s.log.format
  | output => s.log.output

theorem isRow (f : TextField) : IsRow f.row := by
  cases f <;> decide +kernel

end TextField

/-! ## Texts that are kept -/

/-- Whatever a text can be read as, it is written as that is shown. -/
structure IsLiteral (text : String) : Prop where
  ofTrue : lower text = "true" → text = "true"
  ofFalse : lower text = "false" → text = "false"
  ofInteger : ∀ n, integer? text = some n → text = integerText n
  ofReal : ∀ x, integer? text = none → Binary64.ofText? text = some x → text = x.text

/-- A text that reads as no number need only be written in small letters where it reads as a truth value. -/
theorem isLiteral_of_no_number {text : String} (htrue : lower text = "true" → text = "true")
    (hfalse : lower text = "false" → text = "false") (hinteger : integer? text = none)
    (hreal : Binary64.ofText? text = none) : IsLiteral text where
  ofTrue := htrue
  ofFalse := hfalse
  ofInteger _ h := nomatch hinteger.symm.trans h
  ofReal _ _ h := nomatch hreal.symm.trans h

theorem isLiteral_true : IsLiteral "true" :=
  isLiteral_of_no_number (fun _ => rfl) (by decide +kernel) (by decide +kernel) (by decide +kernel)

theorem isLiteral_false : IsLiteral "false" :=
  isLiteral_of_no_number (by decide +kernel) (fun _ => rfl) (by decide +kernel) (by decide +kernel)

/-- A variable comes back as its very text exactly if that is literal. -/
theorem toText_valueOfVariable_eq_iff (text : String) : (valueOfVariable text).toText = .ok text ↔ IsLiteral text := by
  rw [valueOfVariable]
  split
  · next htrue => exact ⟨fun h => Except.ok.inj h ▸ isLiteral_true, fun h => congrArg Except.ok (h.ofTrue htrue).symm⟩
  · next htrue =>
    split
    · next hfalse => exact ⟨fun h => Except.ok.inj h ▸ isLiteral_false, fun h => congrArg Except.ok (h.ofFalse hfalse).symm⟩
    · next hfalse =>
      cases hinteger : integer? text with
      | some n =>
        refine ⟨fun h => ⟨fun h => absurd h htrue, fun h => absurd h hfalse, fun m hm => ?_, fun x hx => ?_⟩,
          fun h => congrArg Except.ok (h.ofInteger n hinteger).symm⟩
        · cases hinteger.symm.trans hm
          exact (Except.ok.inj h).symm
        · cases hinteger.symm.trans hx
      | none =>
        have hnot : ∀ n, integer? text = some n → text = integerText n := fun n hn => nomatch hinteger.symm.trans hn
        cases hreal : Binary64.ofText? text with
        | some x =>
          refine ⟨fun h => ⟨fun h => absurd h htrue, fun h => absurd h hfalse, hnot, fun y _ hy => ?_⟩,
            fun h => congrArg Except.ok (h.ofReal x hinteger hreal).symm⟩
          cases hreal.symm.trans hy
          exact (Except.ok.inj h).symm
        | none =>
          exact ⟨fun _ => isLiteral_of_no_number (absurd · htrue) (absurd · hfalse) hinteger hreal, fun _ => rfl⟩

/-! ## From the variable to the field -/

/-- A layer that puts a value at the end of a row of keys and nothing else near it decides about that row. -/
theorem at?_addLayer_own {q : List String} (hq : IsRow q) {x : Value} (hx : x.isTable = false) {layer : Layer}
    (h : ∀ entry ∈ layer, entry = (join "." q, x) ∨ Misses (KeyPath.ofText entry.1).steps q) {root : Value}
    (hown : (join "." q, x) ∈ layer ∨ root.at? q = some x) : (root.addLayer layer).at? q = some x := by
  induction layer generalizing root with
  | nil => exact hown.resolve_left (by simp)
  | cons entry rest ih =>
    obtain ⟨key, w⟩ := entry
    have hput : (root.setAt (.ofText (join "." q)) x).at? q = some x := at?_setAt_self hq.steps_eq hq.lower_eq root hx
    rw [addLayer_cons]
    refine ih (fun e he => h e (by simp [he])) ?_
    rcases h (key, w) (by simp) with heq | hmisses
    · cases heq
      exact .inr hput
    · rcases hown with hmem | hroot
      · rcases List.mem_cons.1 hmem with heq | hmem
        · cases heq
          exact .inr hput
        · exact .inl hmem
      · exact .inr ((at?_setAt_of_misses hmisses root w).trans hroot)

/-- What is set at the end of two keys stays there when all layers come on top of the defaults. -/
theorem exists_section_over {v : Value} (hkeyed : v.Throughout Keyed) (hsingle : ∀ k ∈ v.keys, IsSingle k) {sec k : String}
    {x : Value} (hx : x.isTable = false) (hat : v.at? [sec, k] = some x) (below : Value) :
    ∃ t, (below.addLayer v.entries).get? sec = some t ∧ t.get? k = some x := by
  obtain ⟨t, ht, htx⟩ := Option.bind_eq_some_iff.1 ((at?_cons ..).symm.trans hat)
  rw [at?_singleton] at htx
  have hover : below.addLayer v.entries = merge below v.entries :=
    addLayer_eq_onto (fun entry he => hsingle entry.1 (List.mem_map_of_mem he)) none below
  have hsec : (merge below v.entries).get? sec = some (t.onto (below.get? sec)) := by
    have hentries : (table none v.entries).Keyed := ⟨hkeyed.here.nodup, hkeyed.here.lower_eq⟩
    have ht' : (table none v.entries).get? sec = some t := ht
    rw [get?_merge hentries, ht']
    rfl
  obtain ⟨origin, entries, rfl⟩ := exists_table_of_isTable (isTable_of_get? htx)
  refine ⟨_, hover ▸ hsec, ?_⟩
  rw [onto, get?_merge (hkeyed.get? ht).here, htx, Option.map_some, onto_of_not_isTable hx, Option.some_or]

/-- Settings that can be read have in a field the text of the value there. -/
theorem TextField.toText_of_toSettings {v t x : Value} {s : Settings} (hs : v.toSettings = .ok s) (f : TextField)
    (ht : v.get? f.sectionName = some t) (hx : t.get? f.name = some x) : x.toText = .ok (f.get s) := by
  obtain ⟨hsession, hlog⟩ := (toSettings_eq_ok_iff (isTable_of_get? ht)).1 hs
  have htable := isTable_of_get? hx
  -- A field that is there is read from its value.
  have hread {otherwise text : String} (h : fieldOf (t.get? f.name) otherwise toText = .ok text) : x.toText = .ok text := by
    rwa [hx] at h
  cases f with
  | user =>
    rw [show v.get? "terminal" = some t from ht] at hsession
    obtain ⟨huser, -⟩ := (toSession_eq_ok_iff htable).1 hsession
    exact hread huser
  | host =>
    rw [show v.get? "terminal" = some t from ht] at hsession
    obtain ⟨-, hhost, -⟩ := (toSession_eq_ok_iff htable).1 hsession
    exact hread hhost
  | level =>
    rw [show v.get? "logging" = some t from ht] at hlog
    obtain ⟨-, hlevel, -⟩ := (toLog_eq_ok_iff htable).1 hlog
    exact hread hlevel
  | format =>
    rw [show v.get? "logging" = some t from ht] at hlog
    obtain ⟨-, -, hformat, -⟩ := (toLog_eq_ok_iff htable).1 hlog
    exact hread hformat
  | output =>
    rw [show v.get? "logging" = some t from ht] at hlog
    obtain ⟨-, -, -, houtput, -⟩ := (toLog_eq_ok_iff htable).1 hlog
    exact hread houtput

/-- If the settings can be loaded, the field of a variable has its very text exactly if that is literal. No other
variable may lead to the field, and of no layer a key that changes its meaning in lower case. -/
theorem get_eq_iff_isLiteral {r : Readers} {d : Disk} {env : Environment} {path : Option String} {s : Settings}
    (hload : load r d env path = .ok s) (f : TextField) {text : String} (hvariable : (variableName f.row, text) ∈ env.bindings)
    (hothers : ∀ entry ∈ env.bindings, entry ≠ (variableName f.row, text) → ∀ key, variableKey? entry.1 = some key →
      Misses (KeyPath.ofText key).steps f.row)
    (hsettled : ∀ layers, layersOf r d env path = .ok layers → ∀ layer ∈ layers, ∀ entry ∈ layer, IsSettled entry.1) :
    f.get s = text ↔ IsLiteral text := by
  rw [load_eq] at hload
  obtain ⟨layers, hlayers, hload⟩ := bind_eq_ok_iff.1 hload
  obtain ⟨files, rfl⟩ : ∃ files, layers = files ++ [environmentLayer env] := by
    obtain ⟨account, -, hlayers⟩ := bind_eq_ok_iff.1 hlayers
    obtain ⟨given, -, hlayers⟩ := bind_eq_ok_iff.1 hlayers
    exact ⟨[account, given], (Except.ok.inj hlayers).symm⟩
  let all := (files ++ [environmentLayer env]).foldl addLayer emptyTable
  have hsettings : (defaults.addLayer all.entries).toSettings = .ok s := hload
  have hsingle : ∀ k ∈ all.keys, IsSingle k := isSingle_of_mem_keys_layers (hsettled _ hlayers) fun k hk => nomatch hk
  have hkeyed : all.Throughout Keyed := keyed_layers _ keyed_emptyTable
  have hat : all.at? f.row = some (valueOfVariable text) := by
    -- The environment is the highest layer.
    rw [show all = _ from List.foldl_append]
    refine at?_addLayer_own f.isRow rfl (fun entry he => ?_) (.inl ?_)
    · rw [environmentLayer_eq] at he
      obtain ⟨binding, hbinding, hentry⟩ := List.mem_filterMap.1 he
      obtain ⟨key, hkey, rfl⟩ := Option.map_eq_some_iff.1 hentry
      by_cases hown : binding = (variableName f.row, text)
      · subst hown
        rw [variableKey?_variableName f.isRow] at hkey
        exact .inl (by rw [Option.some.inj hkey])
      · exact .inr (hothers binding hbinding hown key hkey)
    · rw [environmentLayer_eq]
      exact List.mem_filterMap.2 ⟨_, hvariable, by rw [variableKey?_variableName f.isRow]; rfl⟩
  obtain ⟨t, ht, hx⟩ := exists_section_over hkeyed hsingle rfl hat defaults
  have htext := f.toText_of_toSettings hsettings ht hx
  rw [← toText_valueOfVariable_eq_iff, htext]
  exact ⟨congrArg Except.ok, Except.ok.inj⟩

/-- An environment with nothing but a user. -/
def environmentOfUser (text : String) : Environment := { bindings := [("DCIB__TERMINAL__USER", text)] }

/-- A plain name is kept. -/
theorem get_eq_iff_isLiteral_agent :
    (∃ s, load .own (.empty []) (environmentOfUser "agent") none = .ok s ∧ s.session.user = "agent") ∧ IsLiteral "agent" := by
  have hload : load .own (.empty []) (environmentOfUser "agent") none = .ok { session := { user := "agent" } } :=
    eq_ok_of_toOption (by decide +kernel)
  have hkey : variableKey? "DCIB__TERMINAL__USER" = some "terminal.user" := by decide +kernel
  have hname : variableName TextField.user.row = "DCIB__TERMINAL__USER" := by decide +kernel
  have hkept := (get_eq_iff_isLiteral hload .user (hname.symm ▸ List.mem_singleton_self _)
    (fun entry he hne => absurd (hname.symm ▸ List.mem_singleton.1 he) hne) ?_).1 rfl
  · exact ⟨⟨_, hload, rfl⟩, hkept⟩
  · intro layers hlayers layer hlayer entry he
    have hlayer' : environmentLayer (environmentOfUser "agent") = [("terminal.user", valueOfVariable "agent")] := by
      simp [environmentLayer_eq, environmentOfUser, hkey]
    cases hlayers
    rw [hlayer'] at hlayer
    obtain rfl | rfl : layer = [] ∨ layer = [("terminal.user", valueOfVariable "agent")] := by simpa using hlayer
    · cases he
    · rw [List.mem_singleton.1 he]
      exact isSettled_of_steps (TextField.user.isRow.2.1 _ List.mem_cons_self) TextField.user.isRow.steps_eq

/-- A number with zeros in front loses them on the way from the environment, but not on the way from a file. -/
theorem user_loses_zeros :
    let d : Disk := ⟨[], [("t.toml", .file (Utf8.encodeString "terminal.user='007'"))]⟩
    (load .own d (environmentOfUser "007") none).toOption.map (·.session.user) = some "7" ∧
      (load .own d {} (some "t.toml")).toOption.map (·.session.user) = some "007" := by
  decide +kernel

end TreeShell.Config
