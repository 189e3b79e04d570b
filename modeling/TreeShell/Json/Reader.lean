import TreeShell.Json.Token
/-!
# Reading JSON

A JSON text is one value and nothing else. The reader takes the tokens one at a time and keeps the lists
and records that are still open, the innermost first.
-/

namespace TreeShell.Json

/-- A list or record that is still open, with what it holds so far, the last first. -/
inductive Frame where
  | list (items : List Document)
  | record (fields : List (Option String × Document))
  /-- A record whose next value belongs to a key. -/
  | field (fields : List (Option String × Document)) (key : Option String)

/-- What may come next. -/
inductive Expectation where
  | value
  | firstItem
  | firstKey
  | key
  | colon
  | separator
  | done (document : Document)

structure Reader where
  frames : List Frame
  expectation : Expectation

namespace Reader

def start : Reader := ⟨[], .value⟩

/-- Hands a finished value to the innermost open list or record. -/
def put (document : Document) : List Frame → Option Reader
  | [] => some ⟨[], .done document⟩
  | .list items :: frames => some ⟨.list (document :: items) :: frames, .separator⟩
  | .field fields key :: frames => some ⟨.record ((key, document) :: fields) :: frames, .separator⟩
  | .record _ :: _ => none

/-- A record has a value if all its keys have one. -/
def recordOf (fields : List (Option String × Document)) : Document :=
  match fields.mapM fun (key, value) => key.map fun key => (key, value) with
  | some fields => .record fields
  | none => .unreadable

/-- Closes a list. -/
def closeList : List Frame → Option Reader
  | .list items :: frames => put (.list items.reverse) frames
  | _ => none

/-- Closes a record. -/
def closeRecord : List Frame → Option Reader
  | .record fields :: frames => put (recordOf fields.reverse) frames
  | _ => none

/-- A token where a value is expected. -/
def onValue (frames : List Frame) : Token → Option Reader
  | .openList => some ⟨.list [] :: frames, .firstItem⟩
  | .openRecord => some ⟨.record [] :: frames, .firstKey⟩
  | .text value => put ((value.map Document.text).getD .unreadable) frames
  | .value document => put document frames
  | _ => none

/-- A token where a key is expected. -/
def onKey (frames : List Frame) : Token → Option Reader
  | .text key =>
    match frames with
    | .record fields :: frames => some ⟨.field fields key :: frames, .colon⟩
    | _ => none
  | _ => none

/-- A token behind a value inside a list or record. -/
def onSeparator (frames : List Frame) : Token → Option Reader
  | .comma =>
    match frames with
    | .list _ :: _ => some ⟨frames, .value⟩
    | .record _ :: _ => some ⟨frames, .key⟩
    | _ => none
  | .closeList => closeList frames
  | .closeRecord => closeRecord frames
  | _ => none

/-- One token. -/
def step (r : Reader) (token : Token) : Option Reader :=
  match r.expectation with
  | .value => onValue r.frames token
  | .firstItem => match token with
    | .closeList => closeList r.frames
    | token => onValue r.frames token
  | .firstKey => match token with
    | .closeRecord => closeRecord r.frames
    | token => onKey r.frames token
  | .key => onKey r.frames token
  | .colon => match token with
    | .colon => some ⟨r.frames, .value⟩
    | _ => none
  | .separator => onSeparator r.frames token
  | .done _ => none

end Reader

/-- The document of a row of tokens. -/
def ofTokens? (tokens : List Token) : Option Document :=
  match tokens.foldlM Reader.step Reader.start with
  | some ⟨_, .done document⟩ => some document
  | _ => none

/-- The document of a text. -/
def read? (s : String) : Option Document := (Token.scan s).bind ofTokens?

end TreeShell.Json
