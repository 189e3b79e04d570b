import TreeShell.Toml.Date
/-!
# Tables that stand for dates

In a configuration a table whose first key is `dateTag` stands for the date that the key's text names; its
other keys do not count. `withDates?` puts dates in the place of all such tables of a document, and gives
nothing if one of them names no date. The text of a date is read more freely here than in a TOML text: an
hour may be 24, and the distance from universal time may have any hours and minutes up to a whole day.
-/

namespace TreeShell.Toml

open Number

/-- The key of the text of a date. -/
def dateTag : String := "$__toml_private_datetime"

/-! ## The text of a date -/

/-- A distance from universal time of one day at most. No distance at all counts as a positive one. -/
def scanWideDistance (negative : Bool) (cs : List Char) : Option (String × List Char) := do
  let (hours, cs) ← scanFixed 2 0 99 cs
  let cs ← scanChar ':' cs
  let (minutes, cs) ← scanFixed 2 0 99 cs
  let total := hours * 60 + minutes
  let sign := if negative && total != 0 then "-" else "+"
  if total ≤ 24 * 60 then some (sign ++ padded 2 (total / 60) ++ ":" ++ padded 2 (total % 60), cs) else none

/-- The distance from universal time, if one comes next. -/
def scanWideOffset : List Char → Option (String × List Char)
  | 'Z' :: cs => some ("Z", cs)
  | 'z' :: cs => some ("Z", cs)
  | '+' :: cs => scanWideDistance false cs
  | '-' :: cs => scanWideDistance true cs
  | cs => some ("", cs)

/-- What follows the day of a date. -/
def scanAfterDay (day : String) (cs : List Char) : Option (String × List Char) :=
  match cs with
  | [] => some (day, [])
  | c :: cs =>
    if c = 'T' ∨ c = 't' ∨ c = ' ' then do
      let (time, cs) ← scanTime 24 cs
      let (offset, cs) ← scanWideOffset cs
      some (day ++ "T" ++ time ++ offset, cs)
    else none

/-- The date that a whole text names, as it is written. -/
def dateOfText? (text : String) : Option String := do
  let cs := text.toList
  let (date, rest) ←
    if cs[2]? = some ':' then scanTime 24 cs
    else (scanDay cs).bind fun (day, cs) => scanAfterDay day cs
  if rest = [] then some date else none

/-! ## The dates of a document -/

/-- The value of the tag, if it is the first key. -/
def taggedValue? : List (String × Document) → Option Document
  | (key, value) :: _ => if key = dateTag then some value else none
  | [] => none

/-- The date that the value of the tag names. -/
def dateOfValue? : Document → Option Document
  | .text text => (dateOfText? text).map .date
  | _ => none

mutual
/-- A document with its dates in place. -/
def withDates? : Document → Option Document
  | .list items => (itemsWithDates? items).map .list
  | .record fields =>
    match taggedValue? fields with
    | some value => dateOfValue? value
    | none => (fieldsWithDates? fields).map .record
  | d => some d
termination_by structural d => d

def itemsWithDates? : List Document → Option (List Document)
  | [] => some []
  | item :: rest => do
    let item ← withDates? item
    let rest ← itemsWithDates? rest
    some (item :: rest)
termination_by structural items => items

def fieldsWithDates? : List (String × Document) → Option (List (String × Document))
  | [] => some []
  | (key, value) :: rest => do
    let value ← withDates? value
    let rest ← fieldsWithDates? rest
    some ((key, value) :: rest)
termination_by structural fields => fields
end

end TreeShell.Toml
