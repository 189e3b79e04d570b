import TreeShell.CommandLine
import TreeShell.Proofs.Config.Merging
import TreeShell.Proofs.Config.Sections
/-!
# Fields of well-typed configurations

A value is well typed (`Value.WellTyped`) if no table stands where a field is expected, no field where a table is, and
each field has a value that needs no conversion. A well-typed configuration over the defaults can be read
(`exists_settings`), and `DecidedBy` says what the settings are then, field by field.
-/

namespace TreeShell.Config

open Text Value

/-! ## Well-typed values -/

/-- What a field holds. -/
inductive Kind where
  | text
  /-- A text or nothing. -/
  | optionalText
  | flag

/-- The text of a text value. -/
def Value.text? : Value → Option String
  | .scalar _ (.text t) => some t
  | _ => none

/-- The truth value of a value that needs no conversion. -/
def Value.flag? : Value → Option Bool
  | .scalar _ (.bool b) => some b
  | _ => none

def Kind.Admits : Kind → Value → Prop
  | text, v => v.text?.isSome = true
  | optionalText, v => v.text?.isSome = true ∨ ∃ origin, v = .scalar origin .nil
  | flag, v => v.flag?.isSome = true

/-- The fields of the settings. The modules of the log are fields of a table, under any name. -/
def kindOf? : List String → Option Kind
  | ["terminal", "user"] => some .text
  | ["terminal", "host"] => some .text
  | ["terminal", "home"] => some .text
  | ["terminal", "tree_file"] => some .optionalText
  | ["terminal", "color"] => some .flag
  | ["logging", "enabled"] => some .flag
  | ["logging", "level"] => some .text
  | ["logging", "format"] => some .text
  | ["logging", "output"] => some .text
  | ["logging", "file"] => some .optionalText
  | ["logging", "color"] => some .flag
  | ["logging", "modules", _] => some .text
  | _ => none

/-- Each field that is set has a value of its kind, and nothing but tables lies on the way to a field. -/
def Value.WellTyped (v : Value) : Prop := ∀ q kind, kindOf? q = some kind → v.Fits kind.Admits q

theorem Kind.Admits.not_isTable {kind : Kind} {v : Value} (h : kind.Admits v) : v.isTable = false := by
  cases v with
  | table =>
    cases kind with
    | optionalText => rcases h with h | ⟨_, h⟩ <;> cases h
    | _ => cases h
  | _ => rfl

theorem wellTyped_nil (origin : Option String) : (table origin []).WellTyped := by
  intro q kind hq
  cases q with
  | nil => cases hq
  | cons k ks => exact ⟨rfl, fun w hw => nomatch hw⟩

theorem text?_eq_some_iff {v : Value} {t : String} : v.text? = some t ↔ ∃ origin, v = .scalar origin (.text t) := by
  constructor
  · intro h
    match v, h with
    | .scalar origin (.text _), rfl => exact ⟨origin, rfl⟩
  · rintro ⟨origin, rfl⟩
    rfl

theorem flag?_eq_some_iff {v : Value} {b : Bool} : v.flag? = some b ↔ ∃ origin, v = .scalar origin (.bool b) := by
  constructor
  · intro h
    match v, h with
    | .scalar origin (.bool _), rfl => exact ⟨origin, rfl⟩
  · rintro ⟨origin, rfl⟩
    rfl

/-! ## Reading well-typed fields

What is below a value is the default of the field, if that has one from the start. -/

section Fields

variable {value below : Option Value}

theorem fieldOf_text {otherwise : String} (h : ∀ w, value = some w → Kind.text.Admits w)
    (hbelow : below = none ∨ below = some (defaultText otherwise)) :
    fieldOf (value.or below) otherwise toText = .ok ((value.bind text?).getD otherwise) := by
  cases value with
  | none => rcases hbelow with rfl | rfl <;> rfl
  | some w =>
    obtain ⟨t, ht⟩ := Option.isSome_iff_exists.1 (h w rfl)
    obtain ⟨origin, rfl⟩ := text?_eq_some_iff.1 ht
    rfl

theorem fieldOf_path {otherwise : Path} (h : ∀ w, value = some w → Kind.text.Admits w)
    (hbelow : below = some (defaultText otherwise.text)) (hback : Path.ofText otherwise.text = otherwise) :
    fieldOf (value.or below) otherwise toPath = .ok (((value.bind text?).map Path.ofText).getD otherwise) := by
  cases value with
  | none => rw [hbelow]; exact congrArg Except.ok hback
  | some w =>
    obtain ⟨t, ht⟩ := Option.isSome_iff_exists.1 (h w rfl)
    obtain ⟨origin, rfl⟩ := text?_eq_some_iff.1 ht
    rfl

theorem fieldOf_optionalText (h : ∀ w, value = some w → Kind.optionalText.Admits w) :
    fieldOf value none toOptionalText = .ok (value.bind text?) := by
  cases value with
  | none => rfl
  | some w =>
    rcases h w rfl with h | ⟨origin, rfl⟩
    · obtain ⟨t, ht⟩ := Option.isSome_iff_exists.1 h
      obtain ⟨origin, rfl⟩ := text?_eq_some_iff.1 ht
      rfl
    · rfl

theorem fieldOf_flag {otherwise : Bool} (h : ∀ w, value = some w → Kind.flag.Admits w)
    (hbelow : below = none ∨ below = some (defaultBool otherwise)) :
    fieldOf (value.or below) otherwise toBool = .ok ((value.bind flag?).getD otherwise) := by
  cases value with
  | none => rcases hbelow with rfl | rfl <;> rfl
  | some w =>
    obtain ⟨b, hb⟩ := Option.isSome_iff_exists.1 (h w rfl)
    obtain ⟨origin, rfl⟩ := flag?_eq_some_iff.1 hb
    rfl

end Fields

/-- A table of texts is read as what its keys lead to, each key once. -/
theorem exists_toTexts {v : Value} (hv : v.isTable = true) (hkeyed : v.Keyed)
    (h : ∀ k w, v.get? k = some w → Kind.text.Admits w) :
    ∃ texts, v.toTexts = .ok texts ∧ (texts.map Prod.fst).Nodup ∧
      ∀ k t, (k, t) ∈ texts ↔ (v.get? k).bind text? = some t := by
  obtain ⟨origin, entries, rfl⟩ := exists_table_of_isTable hv
  have hnodup : (entries.map Prod.fst).Nodup := hkeyed.nodup
  have htext : ∀ entry ∈ entries, ∃ t, entry.2.text? = some t := fun entry he =>
    Option.isSome_iff_exists.1 (h entry.1 entry.2 (get?_of_mem hnodup origin he))
  let read (entry : String × Value) : String × String := (entry.1, (entry.2.text?).getD "")
  have hread : (Value.table origin entries).toTexts = .ok (entries.map read) := by
    rw [toTexts]
    clear hkeyed hnodup h hv
    induction entries with
    | nil => rfl
    | cons entry rest ih =>
      obtain ⟨key, w⟩ := entry
      obtain ⟨t, ht⟩ := htext (key, w) (by simp)
      obtain ⟨o, rfl⟩ := text?_eq_some_iff.1 ht
      rw [List.mapM_cons, ih fun e he => htext e (by simp [he])]
      rfl
  refine ⟨entries.map read, hread, ?_, fun k t => ?_⟩
  · simpa [List.map_map, Function.comp_def, read] using hnodup
  · constructor
    · intro hmem
      obtain ⟨⟨key, w⟩, he, heq⟩ := List.mem_map.1 hmem
      obtain ⟨t', ht'⟩ := htext (key, w) he
      cases heq
      have hget : (Value.table origin entries).get? key = some w := get?_of_mem hnodup origin he
      simp [hget, ht']
    · intro hget
      obtain ⟨w, hw, ht⟩ := Option.bind_eq_some_iff.1 hget
      exact List.mem_map.2 ⟨(k, w), mem_of_get? hw, by simp [read, ht]⟩

/-! ## The defaults -/

/-- A value that is put under one key in another. -/
theorem setAt_pair (key sec k : String)
    (h : (KeyPath.ofText key).steps = [.key sec, .key k] ∧ lower sec = sec ∧ lower k = k) (root : Value) {v : Value}
    (hv : v.isTable = false) :
    root.setAt (.ofText key) v = root.put sec (((root.get? sec).getD emptyTable).put k v) := by
  obtain ⟨hsteps, hsec, hk⟩ := h
  have hrow : (KeyPath.ofText key).steps = [sec, k].map .key := hsteps
  rw [setAt_eq_onto hrow (by simp [hsec, hk]), nest, onto, merge, merge, set_eq, hsec, nest, onto, merge, merge, set_eq,
    hk, nest, onto_of_not_isTable hv]
  rfl

theorem defaults_eq :
    defaults = .table none
      [("terminal", .table none
        [("user", defaultText "recruit"), ("host", defaultText "dcib"), ("home", defaultText ({} : Settings.Session).home.text),
          ("color", defaultBool true)]),
      ("logging", .table none
        [("enabled", defaultBool true), ("level", defaultText "info"), ("format", defaultText "text"),
          ("output", defaultText "file")])] := by
  rw [defaults, defaultLayer]
  simp only [addLayer_cons]
  rw [setAt_pair "terminal.user" "terminal" "user" (by decide +kernel) _ rfl,
    setAt_pair "terminal.host" "terminal" "host" (by decide +kernel) _ rfl,
    setAt_pair "terminal.home" "terminal" "home" (by decide +kernel) _ rfl,
    setAt_pair "terminal.color" "terminal" "color" (by decide +kernel) _ rfl,
    setAt_pair "logging.enabled" "logging" "enabled" (by decide +kernel) _ rfl,
    setAt_pair "logging.level" "logging" "level" (by decide +kernel) _ rfl,
    setAt_pair "logging.format" "logging" "format" (by decide +kernel) _ rfl,
    setAt_pair "logging.output" "logging" "output" (by decide +kernel) _ rfl]
  rfl

theorem at?_defaults :
    defaults.at? ["terminal", "user"] = some (defaultText ({} : Settings.Session).user) ∧
    defaults.at? ["terminal", "host"] = some (defaultText ({} : Settings.Session).host) ∧
    defaults.at? ["terminal", "home"] = some (defaultText ({} : Settings.Session).home.text) ∧
    defaults.at? ["terminal", "tree_file"] = none ∧
    defaults.at? ["terminal", "color"] = some (defaultBool ({} : Settings.Session).color) ∧
    defaults.at? ["logging", "enabled"] = some (defaultBool ({} : Settings.Log).enabled) ∧
    defaults.at? ["logging", "level"] = some (defaultText ({} : Settings.Log).level) ∧
    defaults.at? ["logging", "format"] = some (defaultText ({} : Settings.Log).format) ∧
    defaults.at? ["logging", "output"] = some (defaultText ({} : Settings.Log).output) ∧
    defaults.at? ["logging", "file"] = none ∧ defaults.at? ["logging", "color"] = none ∧
    ∀ name, defaults.at? ["logging", "modules", name] = none := by
  rw [defaults_eq]
  exact ⟨rfl, rfl, rfl, rfl, rfl, rfl, rfl, rfl, rfl, rfl, rfl, fun name => rfl⟩

theorem wellTyped_defaults : defaults.WellTyped := by
  intro q kind hq
  rw [defaults_eq]
  unfold kindOf? at hq
  split at hq <;> cases hq <;>
    simp [Fits, isTable, get?_table_cons, get?_table_nil, Kind.Admits, text?, flag?, defaultText, defaultBool]

/-! ## Settings, field by field -/

/-- The settings have in each field what the arguments give it, or else the value that some rows of keys lead to,
or else its default. -/
structure DecidedBy (c : CommandLine) (value : List String → Option Value) (s : Settings) : Prop where
  user : s.session.user = ((value ["terminal", "user"]).bind text?).getD ({} : Settings.Session).user
  host : s.session.host = ((value ["terminal", "host"]).bind text?).getD ({} : Settings.Session).host
  home : s.session.home =
    ((c.home.or ((value ["terminal", "home"]).bind text?)).map Path.ofText).getD ({} : Settings.Session).home
  treeFile : s.session.treeFile = c.tree.or ((value ["terminal", "tree_file"]).bind text?)
  color : s.session.color =
    if c.noColor then false else ((value ["terminal", "color"]).bind flag?).getD ({} : Settings.Session).color
  logEnabled : s.log.enabled = ((value ["logging", "enabled"]).bind flag?).getD ({} : Settings.Log).enabled
  logLevel : s.log.level =
    (c.logLevel.or (if c.verbose then some "debug" else (value ["logging", "level"]).bind text?)).getD
      ({} : Settings.Log).level
  logFormat : s.log.format =
    (c.logFormat.or ((value ["logging", "format"]).bind text?)).getD ({} : Settings.Log).format
  logOutput : s.log.output =
    (c.logOutput.or ((value ["logging", "output"]).bind text?)).getD ({} : Settings.Log).output
  logFile : s.log.file = c.logFile.or ((value ["logging", "file"]).bind text?)
  logColor : s.log.color =
    if c.noColor then false else ((value ["logging", "color"]).bind flag?).getD ({} : Settings.Log).color
  logModules : ∀ name level,
    (name, level) ∈ s.log.modules ↔ (value ["logging", "modules", name]).bind text? = some level
  logModules_nodup : (s.log.modules.map Prod.fst).Nodup

section Reading

variable {v : Value} {value : List String → Option Value} (hkeyed : v.Throughout Keyed) (htyped : v.WellTyped)
  (hvalue : ∀ q kind, kindOf? q = some kind → ∀ w, value q = some w → kind.Admits w)
  (hat : ∀ q kind, kindOf? q = some kind → v.at? q = (value q).or (defaults.at? q))

include htyped hat in
/-- A section is a table if one of its fields has a value from the start. -/
theorem exists_section (sec k : String) {kind : Kind} {w : Value} (hk : kindOf? [sec, k] = some kind)
    (hdefault : defaults.at? [sec, k] = some w) :
    ∃ t, v.get? sec = some t ∧ t.isTable = true ∧ ∀ k kind, kindOf? [sec, k] = some kind →
      t.get? k = (value [sec, k]).or (defaults.at? [sec, k]) := by
  have hsome := hat _ _ hk
  rw [hdefault, at?_cons] at hsome
  cases ht : v.get? sec with
  | none =>
    rw [ht, Option.bind_none] at hsome
    cases hv : value [sec, k] <;> rw [hv] at hsome <;> cases hsome
  | some t =>
    refine ⟨t, rfl, ((htyped _ _ hk).2 t ht).1, fun k kind hk => ?_⟩
    rw [← hat _ _ hk, at?_cons, ht, Option.bind_some, at?_singleton]

include htyped hvalue hat in
theorem exists_session : ∃ s, fieldOf (v.get? "terminal") {} toSession = .ok s ∧
    s.user = ((value ["terminal", "user"]).bind text?).getD ({} : Settings.Session).user ∧
    s.host = ((value ["terminal", "host"]).bind text?).getD ({} : Settings.Session).host ∧
    s.home = (((value ["terminal", "home"]).bind text?).map Path.ofText).getD ({} : Settings.Session).home ∧
    s.treeFile = (value ["terminal", "tree_file"]).bind text? ∧
    s.color = ((value ["terminal", "color"]).bind flag?).getD ({} : Settings.Session).color := by
  obtain ⟨huser, hhost, hhome, htree, hcolor, -⟩ := at?_defaults
  obtain ⟨t, ht, htable, hfield⟩ := exists_section htyped hat "terminal" "user" rfl huser
  refine ⟨⟨_, _, _, _, _⟩, ?_, rfl, rfl, rfl, rfl, rfl⟩
  rw [ht]
  refine (toSession_eq_ok_iff htable).2 ⟨?_, ?_, ?_, ?_, ?_⟩
  · rw [hfield "user" .text rfl]
    exact fieldOf_text (hvalue _ _ rfl) (.inr huser)
  · rw [hfield "host" .text rfl]
    exact fieldOf_text (hvalue _ _ rfl) (.inr hhost)
  · rw [hfield "home" .text rfl]
    exact fieldOf_path (hvalue _ _ rfl) hhome (by decide +kernel)
  · rw [hfield "tree_file" .optionalText rfl, htree, Option.or_none]
    exact fieldOf_optionalText (hvalue _ _ rfl)
  · rw [hfield "color" .flag rfl]
    exact fieldOf_flag (hvalue _ _ rfl) (.inr hcolor)

include hkeyed htyped hvalue hat in
theorem exists_log : ∃ s, fieldOf (v.get? "logging") {} toLog = .ok s ∧
    s.enabled = ((value ["logging", "enabled"]).bind flag?).getD ({} : Settings.Log).enabled ∧
    s.level = ((value ["logging", "level"]).bind text?).getD ({} : Settings.Log).level ∧
    s.format = ((value ["logging", "format"]).bind text?).getD ({} : Settings.Log).format ∧
    s.output = ((value ["logging", "output"]).bind text?).getD ({} : Settings.Log).output ∧
    s.file = (value ["logging", "file"]).bind text? ∧
    s.color = ((value ["logging", "color"]).bind flag?).getD ({} : Settings.Log).color ∧
    (s.modules.map Prod.fst).Nodup ∧
    ∀ name level, (name, level) ∈ s.modules ↔ (value ["logging", "modules", name]).bind text? = some level := by
  obtain ⟨-, -, -, -, -, henabled, hlevel, hformat, houtput, hfile, hcolor, hmodule⟩ := at?_defaults
  obtain ⟨t, ht, htable, hfield⟩ := exists_section htyped hat "logging" "level" rfl hlevel
  have hname (name : String) : (t.get? "modules").bind (·.get? name) = value ["logging", "modules", name] := by
    have := hat ["logging", "modules", name] .text rfl
    rw [hmodule, Option.or_none, at?_cons, ht, Option.bind_some, at?_cons] at this
    simpa only [at?_singleton] using this
  obtain ⟨modules, hmodules, hnodup, hmem⟩ : ∃ modules,
      fieldOf (t.get? "modules") ({} : Settings.Log).modules toTexts = .ok modules ∧ (modules.map Prod.fst).Nodup ∧
        ∀ name level, (name, level) ∈ modules ↔ (value ["logging", "modules", name]).bind text? = some level := by
    cases hm : t.get? "modules" with
    | none => exact ⟨[], rfl, .nil, fun name level => by simp [← hname name, hm]⟩
    | some m =>
      have hfits := fun name => ((htyped ["logging", "modules", name] .text rfl).2 t ht).2 m hm
      obtain ⟨texts, htexts, hnodup, hmem⟩ :=
        exists_toTexts (hfits "").1 (hkeyed.get? ht |>.get? hm).here fun name => (hfits name).2
      exact ⟨texts, htexts, hnodup, fun name level => by rw [hmem, ← hname name, hm, Option.bind_some]⟩
  refine ⟨⟨_, _, _, _, _, _, modules⟩, ?_, rfl, rfl, rfl, rfl, rfl, rfl, hnodup, hmem⟩
  rw [ht]
  refine (toLog_eq_ok_iff htable).2 ⟨?_, ?_, ?_, ?_, ?_, ?_, hmodules⟩
  · rw [hfield "enabled" .flag rfl]
    exact fieldOf_flag (hvalue _ _ rfl) (.inr henabled)
  · rw [hfield "level" .text rfl]
    exact fieldOf_text (hvalue _ _ rfl) (.inr hlevel)
  · rw [hfield "format" .text rfl]
    exact fieldOf_text (hvalue _ _ rfl) (.inr hformat)
  · rw [hfield "output" .text rfl]
    exact fieldOf_text (hvalue _ _ rfl) (.inr houtput)
  · rw [hfield "file" .optionalText rfl, hfile, Option.or_none]
    exact fieldOf_optionalText (hvalue _ _ rfl)
  · rw [hfield "color" .flag rfl]
    exact fieldOf_flag (hvalue _ _ rfl) (.inl hcolor)

include hkeyed htyped hvalue hat in
/-- A configuration of well-typed values over the defaults can be read, and the highest value decides each field. -/
theorem exists_settings (hv : v.isTable = true) : ∃ s, v.toSettings = .ok s ∧ DecidedBy {} value s := by
  obtain ⟨session, hsession, huser, hhost, hhome, htree, hcolor⟩ := exists_session htyped hvalue hat
  obtain ⟨log, hlog, henabled, hlevel, hformat, houtput, hfile, hlogColor, hnodup, hmodules⟩ :=
    exists_log hkeyed htyped hvalue hat
  exact ⟨⟨session, log⟩, (toSettings_eq_ok_iff hv).2 ⟨hsession, hlog⟩,
    ⟨huser, hhost, hhome, htree, hcolor, henabled, hlevel, hformat, houtput, hfile, hlogColor, hmodules, hnodup⟩⟩

end Reading

/-- Arguments come on top of settings. -/
theorem DecidedBy.applyTo {value : List String → Option Value} {s : Settings} (h : DecidedBy {} value s)
    (c : CommandLine) : DecidedBy c value (c.applyTo s) where
  user := h.user
  host := h.host
  home := by
    rw [CommandLine.applyTo, h.home]
    cases c.home <;> rfl
  treeFile := congrArg c.tree.or h.treeFile
  color := by rw [CommandLine.applyTo, h.color]; rfl
  logEnabled := h.logEnabled
  logLevel := by
    rw [CommandLine.applyTo, h.logLevel]
    cases c.logLevel with
    | some level => rfl
    | none => cases c.verbose <;> rfl
  logFormat := by
    rw [CommandLine.applyTo, h.logFormat]
    cases c.logFormat <;> rfl
  logOutput := by
    rw [CommandLine.applyTo, h.logOutput]
    cases c.logOutput <;> rfl
  logFile := congrArg c.logFile.or h.logFile
  logColor := by rw [CommandLine.applyTo, h.logColor]; rfl
  logModules := h.logModules
  logModules_nodup := h.logModules_nodup

end TreeShell.Config
