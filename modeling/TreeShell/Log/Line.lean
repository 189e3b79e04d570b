import TreeShell.Event
import TreeShell.Json.Writer
import TreeShell.Text.Quoted
/-!
# Log lines

An event as a line of text, plain or coloured, or as a JSON record. The time is given from outside.
-/

namespace TreeShell.Log

open Number

inductive Format where
  | text
  | json
  deriving DecidableEq

/-- A control sequence around a text, and the one that ends it. -/
def styled (code text : String) : String := "\x1b[" ++ code ++ "m" ++ text ++ "\x1b[0m"

def dim (text : String) : String := styled "2" text

def italic (text : String) : String := styled "3" text

/-- The colour of a level. -/
def colorCode : Level → String
  | .error => "31"
  | .warn => "33"
  | .info => "32"
  | .debug => "34"
  | .trace => "35"

/-- A level's name, five characters wide. -/
def levelText (level : Level) : String :=
  String.ofList (List.replicate (5 - level.name.length) ' ') ++ level.name

/-- The value of a field in a line of text. -/
def valueText : FieldValue → String
  | .word text => Text.quoted text
  | .plain text => text
  | .count n => String.ofList (decimalDigits n)

def plainLine (time : String) (e : Event) : String :=
  time ++ " " ++ levelText e.level ++ " " ++ e.target ++ ": " ++ e.message ++
    String.join (e.fields.map fun (name, value) => " " ++ name ++ "=" ++ valueText value)

def coloredLine (time : String) (e : Event) : String :=
  dim time ++ " " ++ styled (colorCode e.level) (levelText e.level) ++ " " ++ dim e.target ++ dim ":" ++ " " ++
    e.message ++
    String.join (e.fields.map fun (name, value) => " " ++ italic name ++ dim "=" ++ valueText value)

/-- The value of a field in a record. -/
def valueDocument : FieldValue → Document
  | .word text => .text text
  | .plain text => .text text
  | .count n => .natural n

def record (time : String) (e : Event) : Document :=
  .record
    [("timestamp", .text time), ("level", .text e.level.name),
      ("fields", .record (("message", .text e.message) :: e.fields.map fun (name, value) => (name, valueDocument value))),
      ("target", .text e.target)]

/-- The line of an event, its newline included. -/
def line (format : Format) (color : Bool) (time : String) (e : Event) : String :=
  (match format with
    | .json => Json.compact (record time e)
    | .text => if color then coloredLine time e else plainLine time e) ++ "\n"

end TreeShell.Log
