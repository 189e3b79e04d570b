import TreeShell.Document
import TreeShell.Text.LetterCase
/-!
# Configuration values

A configuration is built from layers. Its values are scalars, lists and tables; each remembers which source
it came from, so that a complaint can name it, except that a table made by merging came from none. Keys are
in lower case. `Value.set` puts a value under a key: a table is merged into what is there, key by key, and
anything else takes its place.
-/

namespace TreeShell.Config

inductive Scalar where
  | nil
  | bool (value : Bool)
  | integer (value : Int)
  | real (value : Binary64)
  | text (value : String)
  deriving DecidableEq

inductive Value where
  | scalar (origin : Option String) (content : Scalar)
  | list (origin : Option String) (items : List Value)
  | table (origin : Option String) (entries : List (String × Value))
  deriving Inhabited

namespace Value

def nil : Value := .scalar none .nil

def emptyTable : Value := .table none []

/-- The entries of a table; anything else is no table and has none. -/
def entries : Value → List (String × Value)
  | .table _ entries => entries
  | _ => []

/-- The origin of a table; one that has to be made has none. -/
def tableOrigin : Value → Option String
  | .table origin _ => origin
  | _ => none

/-- The items of a list; anything else is no list and has none. -/
def items : Value → List Value
  | .list _ items => items
  | _ => []

/-- The origin of a list; one that has to be made has none. -/
def listOrigin : Value → Option String
  | .list origin _ => origin
  | _ => none

/-- The value under a key as it is written. -/
def get? (v : Value) (key : String) : Option Value :=
  (v.entries.find? fun entry => entry.1 = key).map Prod.snd

/-- Gives a key a value, in its place or as the last one. -/
def putEntry (key : String) (value : Value) : List (String × Value) → List (String × Value)
  | [] => [(key, value)]
  | (k, v) :: rest => if k = key then (key, value) :: rest else (k, v) :: putEntry key value rest

/-- A table with a value under a key; what is no table becomes one. -/
def put (v : Value) (key : String) (value : Value) : Value :=
  .table v.tableOrigin (putEntry key value v.entries)

mutual
/-- Puts a value under a key in lower case: a table is merged into the table that is there, and any other
value replaces what is there. -/
def set (root : Value) (key : String) : Value → Value
  | .table _ incoming =>
    root.put (Text.lower key) (merge ((root.get? (Text.lower key)).getD emptyTable) incoming)
  | .scalar origin content => root.put (Text.lower key) (.scalar origin content)
  | .list origin items => root.put (Text.lower key) (.list origin items)
termination_by structural value => value

/-- Sets all entries of a table, one after the other. No entries leave any value as it is. -/
def merge (target : Value) : List (String × Value) → Value
  | [] => target
  | (key, value) :: rest => merge (set target key value) rest
termination_by structural entries => entries
end

mutual
/-- The value that a document from a source stands for. An integer beyond 64 bits with a sign is taken as
a binary number, and of a repeated key the last value counts. -/
def ofDocument (origin : Option String) : Document → Value
  | .null => .scalar origin .nil
  | .bool value => .scalar origin (.bool value)
  | .natural value =>
    .scalar origin (if value < Number.twoTo 63 then .integer value else .real (.ofRatio false value 1))
  | .integer value => .scalar origin (.integer value)
  | .real value => .scalar origin (.real value)
  | .text value => .scalar origin (.text value)
  | .date value => .scalar origin (.text value)
  | .list items => .list origin (ofDocuments origin items)
  | .record fields => .table origin (ofFields origin fields [])
  | .unreadable => .scalar origin .nil
termination_by structural d => d

def ofDocuments (origin : Option String) : List Document → List Value
  | [] => []
  | item :: rest => ofDocument origin item :: ofDocuments origin rest
termination_by structural items => items

def ofFields (origin : Option String) : List (String × Document) → List (String × Value) → List (String × Value)
  | [], entries => entries
  | (key, value) :: rest, entries => ofFields origin rest (putEntry key (ofDocument origin value) entries)
termination_by structural fields => fields
end

end Value

end TreeShell.Config
