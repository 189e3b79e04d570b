import TreeShell.Program
import TreeShell.Proofs.Config.Fields
import TreeShell.Proofs.Config.Loading
/-!
# Which layer decides

Arguments, variables and files decide about the settings field by field: the highest of them that sets a field gives
its value, and a field that none of them sets has its default (`settingsOf_decided`).
-/

namespace TreeShell.Config

open Text Value

/-- Well-typed files with plain keys, and well-typed variables, each of them once, whose names are those of rows. -/
structure Sources (r : Readers) (d : Disk) (env : Environment) (path : Option String) (account given : Layer) :
    Prop where
  account_holds : AccountHolds r d env account
  given_holds : GivenHolds r d path given
  plain : ∀ layer ∈ [account, given], (table none layer).Throughout HasPlainKeys
  typed : ∀ layer ∈ [account, given], (table none layer).WellTyped
  nodup : (env.bindings.map Prod.fst).Nodup
  variables_typed : ∀ entry ∈ env.bindings, (variableKey? entry.1).isSome = true →
    ∃ q, IsRow q ∧ entry.1 = variableName q ∧ (nest q (valueOfVariable entry.2)).WellTyped

/-- What the environment sets a row of keys to. -/
def fromEnvironment? (env : Environment) (q : List String) : Option Value :=
  if IsRow q then (env.get? (variableName q)).map valueOfVariable else none

/-- The highest value that a row of keys leads to, in the environment, the given file or the account's file. -/
def highest (env : Environment) (given account : Layer) (q : List String) : Option Value :=
  ((fromEnvironment? env q).or ((table none given).at? q)).or ((table none account).at? q)

/-! ## Variable by variable -/

theorem environment_get?_cons (name value : String) (rest : List (String × String)) (home : Option String) (k : String) :
    Environment.get? ⟨(name, value) :: rest, home⟩ k = if name = k then some value else Environment.get? ⟨rest, home⟩ k := by
  simp only [Environment.get?, List.find?_cons]
  split <;> simp_all

theorem environment_get?_eq_none {bindings : List (String × String)} {name : String} (h : name ∉ bindings.map Prod.fst)
    (home : Option String) : Environment.get? ⟨bindings, home⟩ name = none := by
  simp only [Environment.get?, Option.map_eq_none_iff, List.find?_eq_none, decide_eq_true_eq]
  rintro entry hentry rfl
  exact h (List.mem_map_of_mem hentry)

theorem valueOfVariable_not_isTable (text : String) : (valueOfVariable text).isTable = false := rfl

theorem keyed_valueOfVariable (text : String) : (valueOfVariable text).Throughout Keyed :=
  throughout_of_entries_nil (keyed_of_entries_nil rfl) rfl

/-- A variable that is nobody's sets nothing. -/
theorem fromEnvironment?_cons_of_none {name : String} (hname : variableKey? name = none) (value : String)
    (rest : List (String × String)) (home : Option String) (q : List String) :
    fromEnvironment? ⟨(name, value) :: rest, home⟩ q = fromEnvironment? ⟨rest, home⟩ q := by
  simp only [fromEnvironment?]
  split
  · next hq =>
    have hne : name ≠ variableName q := by
      rintro rfl
      rw [variableKey?_variableName hq] at hname
      cases hname
    rw [environment_get?_cons, if_neg hne]
  · rfl

/-- The variable of a row sets that row only. -/
theorem fromEnvironment?_cons {r : List String} (hr : IsRow r) (value : String) {rest : List (String × String)}
    (hnodup : variableName r ∉ rest.map Prod.fst) (home : Option String) (q : List String) :
    fromEnvironment? ⟨(variableName r, value) :: rest, home⟩ q =
      (fromEnvironment? ⟨rest, home⟩ q).or (if r = q then some (valueOfVariable value) else none) := by
  by_cases heq : r = q
  · subst heq
    simp [fromEnvironment?, hr, environment_get?_cons, environment_get?_eq_none hnodup]
  · rw [if_neg heq, Option.or_none, fromEnvironment?, fromEnvironment?]
    split
    · next hq => rw [environment_get?_cons, if_neg fun h => heq (variableName_inj hr hq h)]
    · rfl

/-- Each variable decides the row of its name. -/
theorem at?_addLayer_environment {q : List String} {kind : Kind} (hkind : kindOf? q = some kind) (home : Option String)
    {bindings : List (String × String)} (hnodup : (bindings.map Prod.fst).Nodup)
    (h : ∀ entry ∈ bindings, (variableKey? entry.1).isSome = true →
      ∃ r, IsRow r ∧ entry.1 = variableName r ∧ (nest r (valueOfVariable entry.2)).WellTyped)
    {root : Value} (hroot : root.Fits kind.Admits q) :
    (root.addLayer (environmentLayer ⟨bindings, home⟩)).Fits kind.Admits q ∧
      (root.addLayer (environmentLayer ⟨bindings, home⟩)).at? q = (fromEnvironment? ⟨bindings, home⟩ q).or (root.at? q) := by
  induction bindings generalizing root with
  | nil =>
    refine ⟨hroot, ?_⟩
    simp [environmentLayer, addLayer, fromEnvironment?, Environment.get?]
  | cons entry rest ih =>
    obtain ⟨name, value⟩ := entry
    obtain ⟨hname, hnodup⟩ := List.nodup_cons.1 hnodup
    have ih {root : Value} (hroot : root.Fits kind.Admits q) := ih hnodup (fun e he => h e (by simp [he])) hroot
    cases hkey : variableKey? name with
    | none =>
      have hlayer : environmentLayer ⟨(name, value) :: rest, home⟩ = environmentLayer ⟨rest, home⟩ := by
        simp [environmentLayer_eq, hkey]
      rw [hlayer, fromEnvironment?_cons_of_none hkey]
      exact ih hroot
    | some key =>
      obtain ⟨r, hr, rfl, htyped⟩ := h (name, value) (by simp) (by simp [hkey])
      have hlayer : environmentLayer ⟨(variableName r, value) :: rest, home⟩ =
          (join "." r, valueOfVariable value) :: environmentLayer ⟨rest, home⟩ := by
        simp [environmentLayer_eq, variableKey?_variableName hr]
      have hkeyed := keyed_nest hr.lower_eq (keyed_valueOfVariable value)
      have hnest := htyped q kind hkind
      -- The first variable comes on top of the root, and the others on top of that.
      obtain ⟨hfits, hat⟩ := Fits.onto_some (fun _ h => h.not_isTable) hkeyed hnest hroot
      rw [at?_nest (fun _ h => h.not_isTable) (valueOfVariable_not_isTable value) hnest] at hat
      rw [hlayer, addLayer_cons, setAt_eq_onto hr.steps_eq hr.lower_eq, fromEnvironment?_cons hr value hname, Option.or_assoc, ← hat]
      exact ih hfits

/-! ## All layers -/

/-- A file decides what it sets. -/
theorem at?_addLayer_file {layer : Layer} (hplain : (table none layer).Throughout HasPlainKeys)
    (hdistinct : (table none layer).Throughout HasDistinctKeys) (htyped : (table none layer).WellTyped) {q : List String}
    {kind : Kind} (hkind : kindOf? q = some kind) {root : Value} (hroot : root.Fits kind.Admits q) :
    (root.addLayer layer).Fits kind.Admits q ∧
      (root.addLayer layer).at? q = ((table none layer).at? q).or (root.at? q) := by
  have hsingle : ∀ entry ∈ layer, IsSingle entry.1 := fun entry he =>
    isSingle_of_isPlain (hplain.here entry.1 (List.mem_map_of_mem he))
  rw [addLayer_eq_onto hsingle none]
  exact Fits.onto_some (fun _ h => h.not_isTable) (keyed_of_plain hdistinct hplain) (htyped q kind hkind) hroot

theorem isSettled_of_mem_file {layer : Layer} (hplain : (table none layer).Throughout HasPlainKeys) :
    ∀ entry ∈ layer, IsSettled entry.1 := fun entry he =>
  have hentry : IsPlain entry.1 := hplain.here entry.1 (List.mem_map_of_mem he)
  isSettled_of_steps hentry (isSingle_of_isPlain hentry).1

theorem isSettled_of_mem_environmentLayer {env : Environment} (h : ∀ entry ∈ env.bindings,
    (variableKey? entry.1).isSome = true → ∃ q, IsRow q ∧ entry.1 = variableName q) :
    ∀ entry ∈ environmentLayer env, IsSettled entry.1 := by
  intro entry he
  rw [environmentLayer_eq] at he
  obtain ⟨⟨name, value⟩, hbinding, hentry⟩ := List.mem_filterMap.1 he
  obtain ⟨key, hkey, rfl⟩ := Option.map_eq_some_iff.1 hentry
  obtain ⟨q, hq, rfl⟩ := h _ hbinding (by rw [hkey]; rfl)
  rw [variableKey?_variableName hq] at hkey
  cases hkey
  cases q with
  | nil => exact absurd rfl hq.1
  | cons k ks => exact isSettled_of_steps (hq.2.1 k (by simp)) hq.steps_eq

/-- Whatever the formats of the files, the settings can be loaded, and in each field the highest source decides. Where
no file is found for the account, loading with a given file is loading that file. -/
theorem settingsOf_decided (r : Readers) (d : Disk) (env : Environment) (c : CommandLine) :
    (∀ account given, Sources r d env c.config account given →
      ∃ s, Program.settingsOf r c env d = .ok s ∧ DecidedBy c (highest env given account) s) ∧
    ∀ path, NoAccountFile d env → load r d env (some path) = loadFile r d env path := by
  refine ⟨fun account given h => ?_, fun path h => load_eq_loadFile h path⟩
  have haccount := h.plain account (by simp)
  have hgiven := h.plain given (by simp)
  let layers := [account, given, environmentLayer env]
  let all := layers.foldl addLayer emptyTable
  have hall : ∀ q kind, kindOf? q = some kind →
      all.Fits kind.Admits q ∧ all.at? q = highest env given account q := by
    intro q kind hkind
    obtain ⟨hfits, haccountAt⟩ := at?_addLayer_file haccount h.account_holds.hasDistinctKeys
      (h.typed account (by simp)) hkind (wellTyped_nil none q kind hkind)
    obtain ⟨hfits, hgivenAt⟩ := at?_addLayer_file hgiven h.given_holds.hasDistinctKeys (h.typed given (by simp)) hkind hfits
    obtain ⟨hfits, hat⟩ := at?_addLayer_environment hkind env.accountHome h.nodup h.variables_typed hfits
    have hempty : (table none []).at? q = none := by
      cases q with
      | nil => cases hkind
      | cons k ks => rfl
    refine ⟨hfits, hat.trans ?_⟩
    rw [hgivenAt, haccountAt, hempty, Option.or_none, highest, Option.or_assoc]
  have hsettled : ∀ layer ∈ layers, ∀ entry ∈ layer, IsSettled entry.1 := by
    refine List.forall_mem_cons.2 ⟨isSettled_of_mem_file haccount,
      List.forall_mem_cons.2 ⟨isSettled_of_mem_file hgiven, List.forall_mem_singleton.2 ?_⟩⟩
    refine isSettled_of_mem_environmentLayer fun entry he hkey => ?_
    obtain ⟨q, hq, hname, -⟩ := h.variables_typed entry he hkey
    exact ⟨q, hq, hname⟩
  have hsingle : ∀ k ∈ all.keys, IsSingle k := isSingle_of_mem_keys_layers hsettled fun k hk => nomatch hk
  have hkeyed : all.Throughout Keyed := keyed_layers layers keyed_emptyTable
  obtain ⟨origin, entries, hentries⟩ := exists_table_of_isTable (hall ["terminal", "user"] .text rfl).1.1
  -- All sources together come on top of the defaults.
  have hover : defaults.addLayer all.entries = all.onto (some defaults) := by
    rw [hentries]
    exact addLayer_eq_onto (fun entry he => hsingle entry.1 (hentries ▸ List.mem_map_of_mem he)) origin defaults
  have honto : ∀ q kind, kindOf? q = some kind → (all.onto (some defaults)).Fits kind.Admits q ∧
      (all.onto (some defaults)).at? q = (highest env given account q).or (defaults.at? q) := by
    intro q kind hkind
    obtain ⟨hfits, hat⟩ := hall q kind hkind
    exact hat ▸ Fits.onto_some (fun _ h => h.not_isTable) hkeyed hfits (wellTyped_defaults q kind hkind)
  have hkeyedOver : (all.onto (some defaults)).Throughout Keyed :=
    hover ▸ keyed_addLayer (keyed_addLayer keyed_emptyTable _) _
  obtain ⟨s, hs, hdecided⟩ := exists_settings hkeyedOver (fun q kind hkind => (honto q kind hkind).1)
    (fun q kind hkind w hw => (hall q kind hkind).1.of_at? ((hall q kind hkind).2.trans hw))
    (fun q kind hkind => (honto q kind hkind).2) (honto ["terminal", "user"] .text rfl).1.1
  have hload : load r d env c.config = .ok s := by
    rw [load_eq, layersOf, h.account_holds.accountLayer_eq, h.given_holds.givenLayer_eq, ← hs, ← hover]
    rfl
  exact ⟨c.applyTo s, by rw [Program.settingsOf, hload]; rfl, hdecided.applyTo c⟩

/-- A disk with a file for the account and another one in another format. -/
def sampleDisk : Disk :=
  ⟨[], [("h", .directory
    [(".config", .directory [("dcib", .directory
      [("config.toml", .file (Utf8.encodeString "[terminal]\nuser='agent'\nhost='bureau'"))])]),
    ("t.yml", .file (Utf8.encodeString "terminal:\n  user: warden\n"))])]⟩

/-- A reader that knows the other file. -/
def sampleReaders : Readers :=
  { Readers.own with
    yaml := fun text =>
      if text = "terminal:\n  user: warden\n" then some (.record [("terminal", .record [("user", .text "warden")])])
      else none }

/-- An environment with a variable of the configuration and another one. -/
def sampleEnvironment : Environment := { bindings := [("HOME", "/h"), ("DCIB__LOGGING__MODULES__TREE", "trace")] }

def sampleAccount : Layer :=
  let origin := some "/h/.config/dcib/config.toml"
  [("terminal", .table origin [("user", .scalar origin (.text "agent")), ("host", .scalar origin (.text "bureau"))])]

def sampleGiven : Layer :=
  let origin := some "/h/t.yml"
  [("terminal", .table origin [("user", .scalar origin (.text "warden"))])]

theorem sample_sources :
    Sources sampleReaders sampleDisk sampleEnvironment (some "/h/t.yml") sampleAccount sampleGiven where
  account_holds :=
    .file (eq_ok_of_toOption (by decide +kernel) : accountFile sampleEnvironment = .ok "/h/.config/dcib/config.toml")
      (@FileHolds.intro _ _ _ .toml "toml" "[terminal]\nuser='agent'\nhost='bureau'"
        [("terminal", .record [("user", .text "agent"), ("host", .text "bureau")])] (by decide) rfl
        (eq_ok_of_toOption (by decide +kernel)) (Document.eq_some_of_same (by decide +kernel)))
  given_holds :=
    .file (@FileHolds.intro _ _ _ .yaml "yml" "terminal:\n  user: warden\n"
      [("terminal", .record [("user", .text "warden")])] (by decide) rfl
      (eq_ok_of_toOption (by decide +kernel)) rfl)
  plain := by
    have hsection (origin : Option String) (fields : List (String × Value))
        (h : ∀ entry ∈ fields, IsPlain entry.1 ∧ entry.2.entries = []) :
        (table none [("terminal", table origin fields)]).Throughout HasPlainKeys := by
      have hname : IsPlain "terminal" := by decide
      refine throughout_table (fun k hk => (List.mem_singleton.1 hk).symm ▸ hname) fun entry he => ?_
      rw [List.mem_singleton.1 he]
      refine throughout_table (fun k hk => ?_) fun entry he => ?_
      · obtain ⟨entry, he, rfl⟩ := List.mem_map.1 hk
        exact (h entry he).1
      · exact throughout_of_entries_nil (fun k hk => by simp [keys, (h entry he).2] at hk) (h entry he).2
    intro layer hlayer
    obtain rfl | rfl : layer = sampleAccount ∨ layer = sampleGiven := by simpa using hlayer
    · refine hsection _ _ ?_
      simp only [List.forall_mem_cons]
      exact ⟨⟨by decide, rfl⟩, ⟨by decide, rfl⟩, List.forall_mem_nil _⟩
    · refine hsection _ _ ?_
      simp only [List.forall_mem_cons]
      exact ⟨⟨by decide, rfl⟩, List.forall_mem_nil _⟩
  typed := by
    intro layer hlayer q kind hq
    obtain rfl | rfl : layer = sampleAccount ∨ layer = sampleGiven := by simpa using hlayer
    all_goals
      unfold kindOf? at hq
      split at hq <;> cases hq <;>
        simp [sampleAccount, sampleGiven, Fits, isTable, get?_table_cons, get?_table_nil, Kind.Admits, text?]
  nodup := by decide
  variables_typed := by
    intro entry he hkey
    obtain rfl | rfl : entry = ("HOME", "/h") ∨ entry = ("DCIB__LOGGING__MODULES__TREE", "trace") := by
      simpa [sampleEnvironment] using he
    · exact absurd hkey (by decide +kernel)
    · refine ⟨["logging", "modules", "tree"], by decide +kernel, by decide +kernel, fun q kind hq => ?_⟩
      have hvalue : valueOfVariable "trace" = .scalar (some environmentOrigin) (.text "trace") :=
        congrArg (Value.scalar _) (by decide +kernel)
      rw [hvalue]
      unfold kindOf? at hq
      split at hq <;> cases hq <;> simp [nest, Fits, isTable, get?_table_cons, get?_table_nil, Kind.Admits, text?]

/-- The given file names the user, the account's file the host, the environment a module's level, and the arguments
the level of the log and no colours. -/
theorem settingsOf_decided_sample :
    let c : CommandLine := { config := some "/h/t.yml", verbose := true, noColor := true }
    Sources sampleReaders sampleDisk sampleEnvironment c.config sampleAccount sampleGiven ∧
      (∃ s, Program.settingsOf sampleReaders c sampleEnvironment sampleDisk = .ok s ∧ s.session.user = "warden" ∧
        s.session.host = "bureau" ∧ s.log.level = "debug" ∧ s.log.color = false ∧ s.log.format = "text" ∧
        ("tree", "trace") ∈ s.log.modules) ∧
      NoAccountFile sampleDisk {} ∧
      load sampleReaders sampleDisk {} (some "/h/t.yml") = loadFile sampleReaders sampleDisk {} "/h/t.yml" := by
  intro c
  have habsent : NoAccountFile sampleDisk {} := by
    intro path hpath
    have hunknown : accountFile {} = .error .homeUnknown := rfl
    rw [hunknown] at hpath
    cases hpath
  obtain ⟨s, hs, hd⟩ := (settingsOf_decided sampleReaders sampleDisk sampleEnvironment c).1 _ _ sample_sources
  have huser : s.session.user = "warden" := by rw [hd.user]; decide +kernel
  have hhost : s.session.host = "bureau" := by rw [hd.host]; decide +kernel
  have hlevel : s.log.level = "debug" := by rw [hd.logLevel]; decide +kernel
  have hcolor : s.log.color = false := by rw [hd.logColor]; decide +kernel
  have hformat : s.log.format = "text" := by rw [hd.logFormat]; decide +kernel
  have hmodules : ("tree", "trace") ∈ s.log.modules := (hd.logModules "tree" "trace").2 (by decide +kernel)
  exact ⟨sample_sources, ⟨s, hs, huser, hhost, hlevel, hcolor, hformat, hmodules⟩, habsent,
    (settingsOf_decided sampleReaders sampleDisk {} c).2 _ habsent⟩

/-- The account's file is absent, but beside it lies one with an extension more, which counts. -/
theorem load_reads_beside :
    let env : Environment := { bindings := [("XDG_CONFIG_HOME", "x")] }
    let d : Disk :=
      ⟨[], [("x", .directory [("dcib", .directory
        [("config.toml.json", .file (Utf8.encodeString "\x7b\"terminal\":\x7b\"user\":\"shadow\"\x7d\x7d"))])]),
        ("t.toml", .file (Utf8.encodeString "terminal.host='bureau'"))]⟩
    (accountFile env).toOption = some "x/dcib/config.toml" ∧ d.isFile "x/dcib/config.toml" = false ∧
      (load .own d env (some "t.toml")).toOption.map (·.session.user) = some "shadow" ∧
      (loadFile .own d env "t.toml").toOption.map (·.session.user) = some "recruit" := by
  decide +kernel

end TreeShell.Config
