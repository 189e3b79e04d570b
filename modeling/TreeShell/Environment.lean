import TreeShell.Text.Split
import TreeShell.Text.Utf8
/-!
# Environment variables

The variables that a program is started with.
-/

namespace TreeShell

/-- Names and values of variables. -/
structure Environment where
  bindings : List (String × String) := []
  /-- The account's own home directory, for when no variable tells, if the system knows it. -/
  accountHome : Option String := some "/root"
  deriving DecidableEq, Inhabited

namespace Environment

def get? (env : Environment) (name : String) : Option String :=
  (env.bindings.find? fun entry => entry.1 = name).map Prod.snd

/-- The value of a variable that is set and not empty. -/
def nonempty? (env : Environment) (name : String) : Option String :=
  match env.get? name with
  | some "" => none
  | value => value

/-- The variables of a block of bytes, as a system hands them over: a name, an equals sign and a value, with
a zero byte behind each. What is not text is left out. -/
def ofBlock (block : Text.Bytes) : List (String × String) :=
  (pieces block).filterMap fun piece => (Text.Utf8.decodeString piece).bind (Text.cut '=')
where
  /-- The bytes between zero bytes. -/
  pieces : Text.Bytes → List Text.Bytes
    | [] => []
    | b :: bs =>
      if b = 0 then [] :: pieces bs
      else match pieces bs with
        | [] => [[b]]
        | piece :: rest => (b :: piece) :: rest

end Environment

end TreeShell
