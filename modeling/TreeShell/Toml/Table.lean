import TreeShell.Document
/-!
# Tables of a TOML text

While a TOML text is read its tables grow: a header opens one, a dotted key makes those on its way, and
later headers may add tables inside. What may still be extended depends on how a table came to be, which is
its `Form`. `editAt` follows a path of keys, making tables where none are, and is the one way in which
headers, keys and values reach their place.
-/

namespace TreeShell.Toml

/-- How a table came to be. -/
inductive Form where
  /-- By a header of its own, or as the root. -/
  | header
  /-- On the way of a longer header. -/
  | implied
  /-- On the way of a dotted key. -/
  | dotted
  deriving DecidableEq

/-- What a key stands for. A value is closed: inline tables and arrays are not extended later. -/
inductive Item where
  | value (document : Document)
  | table (form : Form) (entries : List (String × Item))
  /-- An array of tables, of which the last can be extended. -/
  | tables (items : List (List (String × Item)))
  deriving Inhabited

abbrev Entries := List (String × Item)

namespace Entries

/-- The item of a key. -/
def item? (entries : Entries) (key : String) : Option Item :=
  (List.find? (fun entry => entry.1 = key) entries).map Prod.snd

/-- The entries without a key. -/
def erase (entries : Entries) (key : String) : Entries := entries.filter fun entry => entry.1 != key

/-- Gives a known key another item. -/
def replace (entries : Entries) (key : String) (item : Item) : Entries :=
  entries.map fun entry => if entry.1 = key then (key, item) else entry

/-- Changes the entries at the end of a path. A dotted path does not lead into a table that has a header of
its own; a path of a header leads into the last table of an array. -/
def editAt (dotted : Bool) (edit : Form → Entries → Option Entries) :
    List String → Form → Entries → Option Entries
  | [], form, entries => edit form entries
  | key :: path, _, entries =>
    match item? entries key with
    | none =>
      let form := if dotted then .dotted else .implied
      (editAt dotted edit path form []).map fun inner => entries ++ [(key, .table form inner)]
    | some (.value _) => none
    | some (.table form inner) =>
      if dotted && form = .header then none
      else (editAt dotted edit path form inner).map fun inner => replace entries key (.table form inner)
    | some (.tables items) =>
      match items.reverse with
      | [] => none
      | last :: before =>
        (editAt dotted edit path .header last).map fun last =>
          replace entries key (.tables (before.reverse ++ [last]))

/-- Puts a value under a dotted key. A table takes values either through dotted keys alone or not at
all through them, and a key takes one value. -/
def insertAt (form : Form) (entries : Entries) (path : List String) (key : String) (value : Document) :
    Option Entries :=
  editAt true (fun form entries =>
      if (form = .dotted) = path.isEmpty then none
      else if (item? entries key).isSome then none
      else some (entries ++ [(key, .value value)]))
    path form entries

/-- Opens the table of a header, which must not have been opened before. The table takes the last place, also
if it was made on the way of a longer header. -/
def openTable (root : Entries) (path : List String) (key : String) : Option Entries :=
  editAt false (fun _ entries =>
      match item? entries key with
      | none => some (entries ++ [(key, .table .header [])])
      | some (.table .implied inner) => some (erase entries key ++ [(key, .table .header inner)])
      | some _ => none)
    path .header root

/-- Opens a new last table of an array of tables. -/
def openNext (root : Entries) (path : List String) (key : String) : Option Entries :=
  editAt false (fun _ entries =>
      match item? entries key with
      | none => some (entries ++ [(key, .tables [[]])])
      | some (.tables items) => some (replace entries key (.tables (items ++ [[]])))
      | some _ => none)
    path .header root

end Entries

/-! ## The document of finished tables -/

mutual
def Item.toDocument : Item → Document
  | .value document => document
  | .table _ entries => .record (fieldsOf entries)
  | .tables items => .list (recordsOf items)

def fieldsOf : List (String × Item) → List (String × Document)
  | [] => []
  | (key, item) :: rest => (key, item.toDocument) :: fieldsOf rest

def recordsOf : List (List (String × Item)) → List Document
  | [] => []
  | entries :: rest => .record (fieldsOf entries) :: recordsOf rest
end

end TreeShell.Toml
