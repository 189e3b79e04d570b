import TreeShell.Config.Error
import TreeShell.Settings
/-!
# Sections of a configuration

The merged configuration is a table with a section for the session and one for the log. A section is a
table of fields, or a list of their values in order. A missing field has its default. Scalars are converted
to what a field needs: any scalar but nil to a text, and numbers and the usual words to a truth value.
-/

namespace TreeShell.Config

open Number

/-! ## Scalars -/

/-- The truth value of a word. -/
def boolOfWord? (word : String) : Option Bool :=
  if word ∈ ["1", "true", "on", "yes"] then some true
  else if word ∈ ["0", "false", "off", "no"] then some false
  else none

/-- The origin of a value. -/
def Value.origin : Value → Option String
  | .scalar origin _ => origin
  | .list origin _ => origin
  | .table origin _ => origin

/-- The truth value of a value. A number is true unless it is zero; case does not matter. -/
def Value.toBool (v : Value) : Except Error Bool :=
  match v with
  | .scalar _ (.bool value) => .ok value
  | .scalar _ (.integer value) => .ok (value != 0)
  | .scalar _ (.real value) => .ok !value.isZero
  | .scalar origin (.text value) =>
    match boolOfWord? (Text.lower value) with
    | some b => .ok b
    | none => .error (.unexpected (Value.scalar none (.text (Text.lower value))).description "a boolean" [] origin)
  | v => .error (.unexpected v.description "a boolean" [] v.origin)

/-- The text of a value. -/
def Value.toText (v : Value) : Except Error String :=
  match v with
  | .scalar _ (.bool value) => .ok (if value then "true" else "false")
  | .scalar _ (.integer value) => .ok (integerText value)
  | .scalar _ (.real value) => .ok value.text
  | .scalar _ (.text value) => .ok value
  | v => .error (.unexpected v.description "a string" [] v.origin)

/-- The text of a value, or nothing for nil. -/
def Value.toOptionalText (v : Value) : Except Error (Option String) :=
  match v with
  | .scalar _ .nil => .ok none
  | v => v.toText.map some

/-- The path of a value. -/
def Value.toPath (v : Value) : Except Error Path := v.toText.map Path.ofText

/-- The texts of a table. -/
def Value.toTexts (v : Value) : Except Error (List (String × String)) :=
  match v with
  | .table _ entries =>
    entries.mapM fun (key, value) => (value.toText.map fun text => (key, text)).mapError (Error.under (.key key))
  | v => .error (.notASection v.description "a map")

/-! ## Sections -/

/-- The field of a section: the step that leads to it, and its value if it has one. -/
structure Field where
  step : Step
  value : Option Value

/-- The field under a name, or at a position if the section is a list. -/
def Value.field (v : Value) (position : Nat) (name : String) : Field :=
  match v with
  | .list _ items => ⟨.index position, items[position]?⟩
  | v => ⟨.key name, v.get? name⟩

/-- Converts a field; a missing one has a default. -/
def Field.read (f : Field) (otherwise : α) (convert : Value → Except Error α) : Except Error α :=
  match f.value with
  | none => .ok otherwise
  | some value => (convert value).mapError (Error.under f.step)

/-- Refuses a value that is no section. -/
def Value.checkSection (v : Value) (expected : String) : Except Error Unit :=
  match v with
  | .scalar _ _ => .error (.notASection v.description expected)
  | _ => .ok ()

/-- The settings of a session. -/
def Value.toSession (v : Value) : Except Error Settings.Session := do
  let defaults : Settings.Session := {}
  v.checkSection "struct SessionSettings"
  let user ← (v.field 0 "user").read defaults.user toText
  let host ← (v.field 1 "host").read defaults.host toText
  let home ← (v.field 2 "home").read defaults.home toPath
  let treeFile ← (v.field 3 "tree_file").read defaults.treeFile toOptionalText
  let color ← (v.field 4 "color").read defaults.color toBool
  pure { user, host, home, treeFile, color }

/-- The settings of the log. -/
def Value.toLog (v : Value) : Except Error Settings.Log := do
  let defaults : Settings.Log := {}
  v.checkSection "struct LoggingConfig"
  let enabled ← (v.field 0 "enabled").read defaults.enabled toBool
  let level ← (v.field 1 "level").read defaults.level toText
  let format ← (v.field 2 "format").read defaults.format toText
  let output ← (v.field 3 "output").read defaults.output toText
  let file ← (v.field 4 "file").read defaults.file toOptionalText
  let color ← (v.field 5 "color").read defaults.color toBool
  let modules ← (v.field 6 "modules").read defaults.modules toTexts
  pure { enabled, level, format, output, file, color, modules }

/-- The settings of a whole configuration. -/
def Value.toSettings (v : Value) : Except Error Settings := do
  let session ← (v.field 0 "terminal").read {} toSession
  let log ← (v.field 1 "logging").read {} toLog
  pure { session, log }

end TreeShell.Config
