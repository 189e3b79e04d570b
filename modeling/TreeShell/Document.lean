import TreeShell.Number.Binary64
/-!
# Documents

The value that a configuration or manifest text stands for, before anything is asked of it. A record keeps
its fields in the order in which they were written, repeats included, because whoever reads a document
decides what a repeated field means. Reading is lenient where a value has a form but no meaning, such as a
number beyond every range: it becomes `unreadable`, and `Document.isReadable` tells whether one occurs.
-/

namespace TreeShell

inductive Document where
  | null
  | bool (value : Bool)
  /-- An integer without sign, in a notation that tells these apart. -/
  | natural (value : Nat)
  | integer (value : Int)
  | real (value : Binary64)
  | text (value : String)
  /-- A date, a time of day, or both, in its standard form. -/
  | date (value : String)
  | list (items : List Document)
  | record (fields : List (String × Document))
  /-- Well formed, but without a value. -/
  | unreadable
  deriving Inhabited

namespace Document

mutual
/-- Whether a document has a value throughout and its lists and records are nested at most `depth` deep. -/
def isReadable (depth : Nat) : Document → Bool
  | .unreadable => false
  | .list items => depth != 0 && allReadable (depth - 1) items
  | .record fields => depth != 0 && allFieldsReadable (depth - 1) fields
  | _ => true

def allReadable (depth : Nat) : List Document → Bool
  | [] => true
  | item :: rest => isReadable depth item && allReadable depth rest

def allFieldsReadable (depth : Nat) : List (String × Document) → Bool
  | [] => true
  | (_, value) :: rest => isReadable depth value && allFieldsReadable depth rest
end

/-- The text of a text document. -/
def asText? : Document → Option String
  | .text value => some value
  | _ => none

def asBool? : Document → Option Bool
  | .bool value => some value
  | _ => none

/-- The values of a field, in the order in which they were written. -/
def valuesOf (key : String) (fields : List (String × Document)) : List Document :=
  (fields.filter fun field => field.1 = key).map Prod.snd

/-- The values of a structure's fields, in the order of their names. A structure is written as a record, in
which a field may be missing but not repeated and other fields do not count, or as the list of its values,
of which some may be missing at the end. -/
def parts? (names : List String) : Document → Option (List (Option Document))
  | .record fields => names.mapM fun name =>
    match valuesOf name fields with
    | [] => some none
    | [value] => some (some value)
    | _ => none
  | .list items =>
    if items.length ≤ names.length then
      some (items.map some ++ List.replicate (names.length - items.length) none)
    else none
  | _ => none

/-- A field's value by a reader of values; a missing field has the given value. -/
def read? (otherwise : α) (reader : Document → Option α) : Option Document → Option α
  | none => some otherwise
  | some value => reader value

end Document

end TreeShell
