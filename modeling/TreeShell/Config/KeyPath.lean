import TreeShell.Config.Value
import TreeShell.Number.Integer
/-!
# Key paths

The key of a layer's value may lead through tables and lists, as in `terminal.user` and `colors[2]`.
`Value.setAt` puts a value at the end of a path and makes the tables and lists on the way, also in place of
values that are neither. `Step.text` is the text that names the end of a row of steps in a message.
-/

namespace TreeShell.Config

open Number

/-- One step: a key of a table, or an index of a list, counted from its end if negative. -/
inductive Step where
  | key (name : String)
  | index (n : Int)
  deriving DecidableEq

/-- The text of a row of steps. A point divides a key from what follows it, unless nothing follows or the
text behind starts with a bracket; nothing divides an index from what follows it. -/
def Step.text : List Step → String
  | [] => ""
  | .index n :: rest => "[" ++ integerText n ++ "]" ++ text rest
  | .key name :: rest =>
    match (text rest).toList.head? with
    | none => name
    | some '[' => name ++ text rest
    | some _ => name ++ "." ++ text rest

/-- The steps on the way and the last one. -/
structure KeyPath where
  way : List Step
  last : Step
  deriving DecidableEq

namespace KeyPath

/-- The characters of a key in a path. -/
def isKeyChar (c : Char) : Bool := c.isAlphanum || c == ' ' || c == '_' || c == '-'

/-- A key and what follows it. -/
def scanKey (cs : List Char) : Option (Step × List Char) :=
  match cs.takeWhile isKeyChar with
  | [] => none
  | key => some (.key (String.ofList key), cs.dropWhile isKeyChar)

def isSpace (c : Char) : Bool := c == ' ' || c == '\t'

/-- An integer with blanks around it, its closing bracket, and what follows that. -/
def scanIndex (cs : List Char) : Option (Step × List Char) :=
  let inside := cs.takeWhile (· != ']')
  let number := ((inside.dropWhile isSpace).reverse.dropWhile isSpace).reverse
  match cs.dropWhile (· != ']') with
  | [] => none
  | _ :: rest =>
    if number.head? = some '+' then none
    else (integer? (String.ofList number)).map fun n => (.index n, rest)

/-- Further steps, given a bound on their number. -/
def scanSteps : Nat → List Char → Option (List Step)
  | _, [] => some []
  | 0, _ => none
  | fuel + 1, c :: cs => do
    let (step, rest) ← if c = '.' then scanKey cs else if c = '[' then scanIndex cs else none
    let steps ← scanSteps fuel rest
    some (step :: steps)

/-- The steps of a path, of which the first is a key. -/
def scan (cs : List Char) : Option (List Step) := do
  let (first, rest) ← scanKey cs
  let steps ← scanSteps rest.length rest
  some (first :: steps)

/-- The path that a key stands for; a key that is no path stands for itself. -/
def ofText (key : String) : KeyPath :=
  match ((scan key.toList).getD []).reverse with
  | last :: way => ⟨way.reverse, last⟩
  | [] => ⟨[], .key key⟩

end KeyPath

namespace Value

/-- The place that an index names in a list of a length. -/
def position (length : Nat) : Int → Nat
  | .ofNat n => n
  | .negSucc n => length - (n + 1)

/-- A list with an item changed. It grows to hold the item; what is no list becomes one. -/
def changeItem (v : Value) (n : Int) (change : Value → Value) : Value :=
  let i := position v.items.length n
  .list v.listOrigin ((v.items ++ List.replicate (i + 1 - v.items.length) nil).modify i change)

/-- A table with the value under a key changed. -/
def changeKey (v : Value) (key : String) (change : Value → Value) : Value :=
  v.put (Text.lower key) (change ((v.get? (Text.lower key)).getD nil))

/-- Changes the value at the end of a row of steps. -/
def changeAt (change : Value → Value) : List Step → Value → Value
  | [], v => change v
  | .key name :: rest, v => v.changeKey name (changeAt change rest)
  | .index n :: rest, v => v.changeItem n (changeAt change rest)

/-- Puts a value at the end of a path. -/
def setAt (root : Value) (path : KeyPath) (value : Value) : Value :=
  changeAt (fun v =>
      match path.last with
      | .key name => v.set name value
      | .index n => v.changeItem n fun _ => value)
    path.way root

end Value

end TreeShell.Config
