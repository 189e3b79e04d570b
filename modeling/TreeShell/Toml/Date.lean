import TreeShell.Document
import TreeShell.Number.Digits
/-!
# Dates in TOML

A date, a time of day, or a date with a time and perhaps its distance from universal time. Each part is
checked, days against the length of their month. The written form keeps nine places of a second at most
and drops zeros at the end.
-/

namespace TreeShell.Toml

open Number

/-- A number of exactly so many digits between two bounds. -/
def scanFixed (width low high : Nat) (cs : List Char) : Option (Nat × List Char) :=
  let digits := cs.take width
  let n := ofDigits 10 digits
  if digits.length = width && digits.all Char.isDigit && low ≤ n && n ≤ high then some (n, cs.drop width)
  else none

/-- A given character. -/
def scanChar (c : Char) : List Char → Option (List Char)
  | d :: cs => if d = c then some cs else none
  | [] => none

def isLeapYear (year : Nat) : Bool := year % 4 == 0 && (year % 100 != 0 || year % 400 == 0)

def daysIn (year month : Nat) : Nat :=
  if month = 2 then (if isLeapYear year then 29 else 28)
  else if month ∈ [4, 6, 9, 11] then 30
  else 31

/-- A day of the calendar, as it is written. -/
def scanDay (cs : List Char) : Option (String × List Char) := do
  let (year, cs) ← scanFixed 4 0 9999 cs
  let cs ← scanChar '-' cs
  let (month, cs) ← scanFixed 2 1 12 cs
  let cs ← scanChar '-' cs
  let (day, cs) ← scanFixed 2 1 31 cs
  if day ≤ daysIn year month then
    some (padded 4 year ++ "-" ++ padded 2 month ++ "-" ++ padded 2 day, cs)
  else none

/-- The places of a second: at most nine of them, without zeros at the end. -/
def placesText (digits : List Char) : String :=
  match ((digits.take 9).reverse.dropWhile (· == '0')).reverse with
  | [] => ""
  | places => String.ofList ('.' :: places)

/-- The fraction of a second, if one comes next. -/
def scanPlaces : List Char → Option (String × List Char)
  | '.' :: cs =>
    match cs.takeWhile Char.isDigit with
    | [] => none
    | digits => some (placesText digits, cs.dropWhile Char.isDigit)
  | cs => some ("", cs)

/-- A time of day up to an hour, with seconds, of which a minute may have sixty-one. -/
def scanTime (lastHour : Nat) (cs : List Char) : Option (String × List Char) := do
  let (hour, cs) ← scanFixed 2 0 lastHour cs
  let cs ← scanChar ':' cs
  let (minute, cs) ← scanFixed 2 0 59 cs
  let cs ← scanChar ':' cs
  let (second, cs) ← scanFixed 2 0 60 cs
  let (places, cs) ← scanPlaces cs
  some (padded 2 hour ++ ":" ++ padded 2 minute ++ ":" ++ padded 2 second ++ places, cs)

/-- The hours and minutes of a distance from universal time; no distance counts as a positive one. -/
def scanDistance (negative : Bool) (cs : List Char) : Option (String × List Char) := do
  let (hours, cs) ← scanFixed 2 0 23 cs
  let cs ← scanChar ':' cs
  let (minutes, cs) ← scanFixed 2 0 59 cs
  let sign := if negative && (hours != 0 || minutes != 0) then "-" else "+"
  some (sign ++ padded 2 hours ++ ":" ++ padded 2 minutes, cs)

/-- The distance from universal time, if one comes next. -/
def scanOffset : List Char → Option (String × List Char)
  | 'Z' :: cs => some ("Z", cs)
  | 'z' :: cs => some ("Z", cs)
  | '+' :: cs => scanDistance false cs
  | '-' :: cs => scanDistance true cs
  | cs => some ("", cs)

/-- A time behind a date, if one comes next. A blank behind a date need not announce one. -/
def scanTimeOfDay (day : String) (cs : List Char) : Option (String × List Char) :=
  match cs with
  | [] => some (day, [])
  | c :: rest =>
    if c = 'T' ∨ c = 't' ∨ c = ' ' then
      match scanTime 23 rest with
      | none => some (day, cs)
      | some (time, rest) => (scanOffset rest).map fun (offset, rest) => (day ++ "T" ++ time ++ offset, rest)
    else some (day, cs)

/-- A date, a time of day, or both. -/
def scanDate (cs : List Char) : Option (Document × List Char) :=
  let found := match scanDay cs with
    | some (day, rest) => scanTimeOfDay day rest
    | none => scanTime 23 cs
  found.map fun (text, rest) => (.date text, rest)

end TreeShell.Toml
