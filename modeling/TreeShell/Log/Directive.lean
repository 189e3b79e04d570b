import TreeShell.Event
import TreeShell.Log.Pattern
/-!
# Log directives

A directive says up to which level events are logged: all of them (`debug`), those of one part of the
program (`interpreter=debug`), or those inside a span or with certain fields (`[shell{command}]=trace`).
Its parts are cut out of the text by offsets in bytes. An offset inside a character is a crash, which ends
the whole program.
-/

namespace TreeShell.Log

open Text Number

/-- The wordiest level that is logged, or `none` for no logging at all. -/
abbrev Threshold := Option Level

/-- The level of a name in any case, or of a number from 0 for none to 5 for the wordiest. -/
def thresholdOf? (name : String) : Option Threshold :=
  let thresholds : List Threshold :=
    [none, some .error, some .warn, some .info, some .debug, some .trace]
  let digits := match name.toList with
    | '+' :: cs => cs
    | cs => cs
  if !digits.isEmpty && digits.all Char.isDigit then thresholds[ofDigits 10 digits]?
  else match name.map Char.toLower with
    | "off" => some none
    | "" | "error" => some (some .error)
    | "warn" => some (some .warn)
    | "info" => some (some .info)
    | "debug" => some (some .debug)
    | "trace" => some (some .trace)
    | _ => none

/-- A field that an event must have, and whether a value is asked for. -/
structure FieldCondition where
  name : String
  valued : Bool
  deriving DecidableEq

structure Directive where
  threshold : Threshold := some .trace
  target : Option String := none
  span : Option String := none
  fields : List FieldCondition := []
  deriving DecidableEq

/-- Why something comes to no result: it fails, or it crashes. -/
inductive Stop (ε : Type) where
  | failure (error : ε)
  | crash
  deriving DecidableEq

instance {ε α : Type} : ∀ r : Except (Stop ε) α, Decidable (r = .error .crash)
  | .ok _ => isFalse nofun
  | .error (.failure _) => isFalse nofun
  | .error .crash => isTrue rfl

namespace Directive

inductive Error where
  | malformed
  | badLevel
  /-- A field's value that is neither a number nor a pattern. -/
  | badValue (cause : Pattern.Error)
  deriving DecidableEq

def Error.message : Error → String
  | malformed => "invalid filter directive"
  | badLevel =>
    "error parsing level filter: expected one of \"off\", \"error\", \"warn\", \"info\", \"debug\", \"trace\", " ++
      "or a number 0-5"
  | badValue cause => "invalid field filter: " ++ cause.message

/-! ## Reading -/

/-- Where a reader stands, with the offset in bytes at which the part that it is in began. -/
inductive Stage where
  | start
  | name (first : Nat)
  | span (first : Nat)
  | field (first : Nat)
  | fields
  | target
  | level (first : Nat)
  | complete

/-- The characters from an offset in bytes on, unless it lies inside a character or behind the last. -/
def dropBytes? : Nat → List Char → Option (List Char)
  | 0, cs => some cs
  | _ + 1, [] => none
  | n + 1, c :: cs => if n + 1 < c.utf8Size then none else dropBytes? (n + 1 - c.utf8Size) cs

/-- The characters in front of an offset in bytes, unless it lies inside a character or behind the last. -/
def takeBytes? : Nat → List Char → Option (List Char)
  | 0, _ => some []
  | _ + 1, [] => none
  | n + 1, c :: cs => if n + 1 < c.utf8Size then none else (takeBytes? (n + 1 - c.utf8Size) cs).map (c :: ·)

/-- What is cut out of a text; without it the program crashes. -/
def cutOut : Option (List Char) → Except (Stop Error) String
  | some cs => .ok (String.ofList cs)
  | none => .error .crash

/-- The text from an offset in bytes on. -/
def sliceFrom (cs : List Char) (first : Nat) : Except (Stop Error) String := cutOut (dropBytes? first cs)

/-- The text between two offsets in bytes. -/
def slice (cs : List Char) (first last : Nat) : Except (Stop Error) String :=
  cutOut ((dropBytes? first cs).bind (takeBytes? (last - first)))

/-- The level behind an equals sign; none at all means the wordiest one. -/
def withLevel (d : Directive) (name : String) : Except Error Directive :=
  if name = "" then .ok { d with threshold := some .trace }
  else match thresholdOf? name with
    | some threshold => .ok { d with threshold }
    | none => .error .badLevel

/-- A text without an equals sign: the name of a level, or else a target. -/
def withName (d : Directive) (name : String) : Directive :=
  if name = "" then { d with threshold := some .trace, target := none }
  else match thresholdOf? name with
    | some threshold => { d with threshold, target := none }
    | none => { d with threshold := some .trace, target := some name }

/-- Checks the value of a field's condition: a number, or else a pattern. -/
def checkValue (value : String) : Except Error Unit :=
  if (Binary64.ofText? value).isSome then .ok () else (Pattern.check value).mapError .badValue

/-- A condition on a field: its name, and perhaps a value between equals signs. What follows the second
equals sign does not count. -/
def withField (d : Directive) (field : String) : Except Error Directive :=
  if field = "" then .error .malformed
  else match split '=' field with
    | name :: value :: _ => (checkValue value).map fun () => { d with fields := d.fields ++ [⟨name, true⟩] }
    | _ => .ok { d with fields := d.fields ++ [⟨field, false⟩] }

def startsName (c : Char) : Bool := c == '-' || c == ':' || c == '_' || isAlphanumeric c

/-- One character at an offset of the whole text. -/
def step (text : List Char) (d : Directive) (stage : Stage) (i : Nat) (c : Char) :
    Except (Stop Error) (Directive × Stage) :=
  match stage with
  | .start =>
    if c = '[' then .ok (d, .span (i + 1))
    else if startsName c then .ok (d, .name i)
    else .error (.failure .malformed)
  | .name first =>
    if c = '=' then do
      let target ← slice text first i
      pure ({ d with target := some target }, .level (i + 1))
    else if c = '[' then do
      let target ← slice text first i
      pure ({ d with target := some target }, .span (i + 1))
    else if c = ',' then do
      let name ← sliceFrom text first
      pure (d.withName name, .complete)
    else .ok (d, stage)
  | .span first =>
    if c = ']' then do
      let name ← slice text first i
      pure ({ d with span := some name }, .target)
    else if c = '\x7b' then do
      let name ← slice text first i
      pure ({ d with span := if name = "" then none else some name }, .field (i + 1))
    else .ok (d, stage)
  | .field first =>
    if c = '\x7d' then do
      let field ← slice text first i
      let d ← (d.withField field).mapError .failure
      pure (d, .fields)
    else if c = ',' then do
      let field ← slice text first i
      let d ← (d.withField field).mapError .failure
      pure (d, .field (i + 1))
    else .ok (d, stage)
  | .fields => if c = ']' then .ok (d, .target) else .error (.failure .malformed)
  | .target => if c = '=' then .ok (d, .level (i + 1)) else .error (.failure .malformed)
  | .level first =>
    if c = ',' then do
      let name ← slice text first i
      let d ← (d.withLevel name).mapError .failure
      pure (d, .complete)
    else .ok (d, stage)
  | .complete => .error (.failure .malformed)

/-- All characters from an offset on. -/
def run (text : List Char) (d : Directive) (stage : Stage) (i : Nat) :
    List Char → Except (Stop Error) (Directive × Stage)
  | [] => .ok (d, stage)
  | c :: cs => do
    let (d, stage) ← step text d stage i c
    run text d stage (i + c.utf8Size) cs

/-- The end of the text. -/
def finish (text : List Char) (d : Directive) : Stage → Except (Stop Error) Directive
  | .name first => (sliceFrom text first).map d.withName
  | .level first => do
    let name ← sliceFrom text first
    (d.withLevel name).mapError .failure
  | .target => .ok d
  | .complete => .ok d
  | _ => .error (.failure .malformed)

/-- The directive that a text stands for. Blanks around it are passed over, but parts are cut out by their
offsets as if none were in front. -/
def parse (s : String) : Except (Stop Error) Directive := do
  let (d, stage) ← run s.toList {} .start 0 (trim s.toList)
  finish s.toList d stage

end Directive

end TreeShell.Log
