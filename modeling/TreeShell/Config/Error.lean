import TreeShell.Config.KeyPath
import TreeShell.Disk
import TreeShell.Number.Decimal
import TreeShell.Text.Quoted
/-!
# Configuration errors

What may be wrong with a configuration: a file that is missing, of no known format, not readable or
malformed, and a value of the wrong type.
-/

namespace TreeShell.Config

open Number

/-- What a value is, for a message. -/
def Value.description : Value → String
  | .scalar _ .nil => "unit value"
  | .scalar _ (.bool value) => "boolean \x60" ++ (if value then "true" else "false") ++ "\x60"
  | .scalar _ (.integer value) => "integer \x60" ++ integerText value ++ "\x60"
  | .scalar _ (.real value) =>
    let text := value.text
    let whole := match value with
      | .finite _ _ _ => !text.toList.contains '.'
      | _ => false
    "floating point \x60" ++ (if whole then text ++ ".0" else text) ++ "\x60"
  | .scalar _ (.text value) => "string " ++ Text.quoted value
  | .list _ _ => "sequence"
  | .table _ _ => "map"

inductive Error where
  /-- The environment does not tell where the account's configuration is. -/
  | homeUnknown
  | missingFile (path : String)
  | unknownFormat (path : String)
  | unreadable (cause : Disk.Error)
  | malformed (path : String)
  /-- A value that cannot be converted, given by its description, with the steps to it and its origin. -/
  | unexpected (found expected : String) (steps : List Step) (origin : Option String)
  /-- A value in the place of a whole section. -/
  | notASection (found expected : String)
  deriving DecidableEq

def Error.message : Error → String
  | homeUnknown => "Configuration error: Could not determine XDG config home directory (HOME not set)"
  | missingFile path => "configuration file \"" ++ path ++ "\" not found"
  | unknownFormat path => "configuration file \"" ++ path ++ "\" is not of a registered file format"
  | unreadable cause => cause.message
  | malformed path => "malformed configuration in " ++ path
  | unexpected found expected steps origin =>
    "invalid type: " ++ found ++ ", expected " ++ expected ++ " for key \x60" ++ Step.text steps ++ "\x60" ++
      (match origin with
        | some origin => " in " ++ origin
        | none => "")
  | notASection found expected => "invalid type: " ++ found ++ ", expected " ++ expected

/-- The error as seen from the value that the step was taken from. -/
def Error.under (step : Step) : Error → Error
  | unexpected found expected steps origin => unexpected found expected (step :: steps) origin
  | e => e

end TreeShell.Config
