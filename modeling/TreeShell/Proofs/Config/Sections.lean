import TreeShell.Config.Section
import TreeShell.Proofs.Config.Values
/-!
# Reading the sections

When a configuration can be read as settings, and as which: each field by itself, from what its name leads to or
from its default (`Value.toSession_eq_ok_iff`, `Value.toLog_eq_ok_iff`).
-/

namespace TreeShell.Config

theorem bind_eq_ok_iff {ε α β : Type} {x : Except ε α} {f : α → Except ε β} {b : β} :
    (x >>= f) = .ok b ↔ ∃ a, x = .ok a ∧ f a = .ok b := by
  cases x with
  | error e => simp [bind, Except.bind]
  | ok a => simp [bind, Except.bind]

theorem mapError_eq_ok_iff {ε ε' α : Type} {x : Except ε α} {f : ε → ε'} {a : α} :
    x.mapError f = .ok a ↔ x = .ok a := by
  cases x with
  | error e => exact ⟨nofun, nofun⟩
  | ok b => exact ⟨fun h => congrArg _ (Except.ok.inj h), fun h => congrArg _ (Except.ok.inj h)⟩

theorem eq_ok_of_toOption {ε α : Type} {x : Except ε α} {a : α} (h : x.toOption = some a) : x = .ok a := by
  cases x with
  | error e => cases h
  | ok b => exact congrArg Except.ok (Option.some.inj h)

variable {α : Type}

/-- What a field comes to, given what its name leads to. -/
def fieldOf (value : Option Value) (otherwise : α) (convert : Value → Except Error α) : Except Error α :=
  value.elim (.ok otherwise) convert

theorem Field.read_eq_ok_iff {f : Field} {otherwise x : α} {convert : Value → Except Error α} :
    f.read otherwise convert = .ok x ↔ fieldOf f.value otherwise convert = .ok x := by
  obtain ⟨step, value⟩ := f
  cases value with
  | none => rfl
  | some w => exact mapError_eq_ok_iff

namespace Value

variable {v : Value}

theorem field_of_isTable (h : v.isTable = true) (position : Nat) (name : String) :
    (v.field position name).value = v.get? name := by
  cases v with
  | table origin entries => rfl
  | _ => cases h

theorem checkSection_of_isTable (h : v.isTable = true) (expected : String) : v.checkSection expected = .ok () := by
  cases v with
  | table origin entries => rfl
  | _ => cases h

theorem toSession_eq_ok_iff (h : v.isTable = true) {s : Settings.Session} :
    v.toSession = .ok s ↔
      fieldOf (v.get? "user") ({} : Settings.Session).user toText = .ok s.user ∧
      fieldOf (v.get? "host") ({} : Settings.Session).host toText = .ok s.host ∧
      fieldOf (v.get? "home") ({} : Settings.Session).home toPath = .ok s.home ∧
      fieldOf (v.get? "tree_file") ({} : Settings.Session).treeFile toOptionalText = .ok s.treeFile ∧
      fieldOf (v.get? "color") ({} : Settings.Session).color toBool = .ok s.color := by
  simp only [toSession, bind_eq_ok_iff, checkSection_of_isTable h, Field.read_eq_ok_iff, field_of_isTable h]
  constructor
  · rintro ⟨-, -, user, huser, host, hhost, home, hhome, treeFile, htree, color, hcolor, hs⟩
    cases hs
    exact ⟨huser, hhost, hhome, htree, hcolor⟩
  · rintro ⟨huser, hhost, hhome, htree, hcolor⟩
    exact ⟨(), trivial, _, huser, _, hhost, _, hhome, _, htree, _, hcolor, rfl⟩

theorem toLog_eq_ok_iff (h : v.isTable = true) {s : Settings.Log} :
    v.toLog = .ok s ↔
      fieldOf (v.get? "enabled") ({} : Settings.Log).enabled toBool = .ok s.enabled ∧
      fieldOf (v.get? "level") ({} : Settings.Log).level toText = .ok s.level ∧
      fieldOf (v.get? "format") ({} : Settings.Log).format toText = .ok s.format ∧
      fieldOf (v.get? "output") ({} : Settings.Log).output toText = .ok s.output ∧
      fieldOf (v.get? "file") ({} : Settings.Log).file toOptionalText = .ok s.file ∧
      fieldOf (v.get? "color") ({} : Settings.Log).color toBool = .ok s.color ∧
      fieldOf (v.get? "modules") ({} : Settings.Log).modules toTexts = .ok s.modules := by
  simp only [toLog, bind_eq_ok_iff, checkSection_of_isTable h, Field.read_eq_ok_iff, field_of_isTable h]
  constructor
  · rintro ⟨-, -, enabled, henabled, level, hlevel, format, hformat, output, houtput, file, hfile, color, hcolor,
      modules, hmodules, hs⟩
    cases hs
    exact ⟨henabled, hlevel, hformat, houtput, hfile, hcolor, hmodules⟩
  · rintro ⟨henabled, hlevel, hformat, houtput, hfile, hcolor, hmodules⟩
    exact ⟨(), trivial, _, henabled, _, hlevel, _, hformat, _, houtput, _, hfile, _, hcolor, _, hmodules, rfl⟩

theorem toSettings_eq_ok_iff (h : v.isTable = true) {s : Settings} :
    v.toSettings = .ok s ↔
      fieldOf (v.get? "terminal") {} toSession = .ok s.session ∧ fieldOf (v.get? "logging") {} toLog = .ok s.log := by
  simp only [toSettings, bind_eq_ok_iff, Field.read_eq_ok_iff, field_of_isTable h]
  constructor
  · rintro ⟨session, hsession, log, hlog, hs⟩
    cases hs
    exact ⟨hsession, hlog⟩
  · rintro ⟨hsession, hlog⟩
    exact ⟨_, hsession, _, hlog, rfl⟩

end Value

end TreeShell.Config
