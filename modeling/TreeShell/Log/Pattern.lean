import TreeShell.Number.Decimal
import TreeShell.Text.Alphanumeric
/-!
# Patterns of field values

A log directive may ask that the value of a field match a pattern, a regular expression. Which texts are
patterns is said here; matching is not, as no event is ever held against a pattern. Classes of characters by
their properties are unknown, and so is ignoring the case of letters outside ASCII mode; repetition counts
need a closing brace, which ends the field, so they cannot occur.

A text is read from left to right. What is still open is kept with the modes to go back to; of what is
finished only its height is kept, which is how deep constructs are nested in it and which has a limit. Every
step takes a character, so the length of the text bounds the number of steps of any kind.
-/

namespace TreeShell.Log.Pattern

open Text Number

inductive Error where
  | malformed
  /-- A word boundary that goes by the letters of all scripts. -/
  | unicodeBoundary
  deriving DecidableEq

def Error.message : Error → String
  | malformed => "error building NFA"
  | unicodeBoundary =>
    "unsupported regex feature for DFAs: cannot build DFAs for regexes with Unicode word boundaries; " ++
      "switch to ASCII word boundaries, or heuristically enable Unicode word boundaries or use a different " ++
      "regex engine"

/-! ## Modes -/

/-- How the text that follows is read. -/
structure Modes where
  ignoreCase : Bool := false
  unicode : Bool := true
  /-- Blanks do not count, nor comments from a number sign to the end of the line. -/
  spaced : Bool := false

/-- What follows blanks and comments. -/
def skipComments (inComment : Bool) : List Char → List Char
  | [] => []
  | c :: cs =>
    if inComment then skipComments (c != '\n') cs
    else if isBlank c then skipComments false cs
    else if c = '#' then skipComments true cs
    else c :: cs

/-- What follows whatever does not count here. -/
def Modes.skip (m : Modes) (cs : List Char) : List Char := if m.spaced then skipComments false cs else cs

/-- The next character that counts. Of a comment in front of it only the number sign is passed over. -/
def Modes.peek (m : Modes) (cs : List Char) : Option Char :=
  if m.spaced then
    match cs.dropWhile isBlank with
    | '#' :: cs => (cs.dropWhile isBlank).head?
    | cs => cs.head?
  else cs.head?

/-- Whether signs switch a mode on or off; those behind a hyphen switch off. -/
def switch? (mode : Char) (signs : List Char) : Option Bool :=
  if mode ∈ signs.takeWhile (· != '-') then some true
  else if mode ∈ signs then some false
  else none

/-- The modes that signs lead to. -/
def Modes.switched (m : Modes) (signs : List Char) : Modes :=
  { ignoreCase := (switch? 'i' signs).getD m.ignoreCase
    unicode := (switch? 'u' signs).getD m.unicode
    spaced := (switch? 'x' signs).getD m.spaced }

/-- Signs of modes, each at most once, with at most one hyphen, which is not the last of them. -/
def areSigns (signs : List Char) : Bool :=
  signs.all (fun c => c ∈ ['i', 'm', 's', 'U', 'u', 'R', 'x', '-']) && signs.eraseDups == signs &&
    signs.getLast? != some '-'

/-! ## Single characters and escapes -/

/-- What a single character or an escape stands for. -/
inductive Atom where
  | literal (c : Char)
  /-- A byte by its number. -/
  | byte (n : Nat)
  /-- Any character. -/
  | any
  /-- A digit, a blank or a character of a word, or any other character. -/
  | kind (negated : Bool)
  /-- The start or the end of the text or a line. -/
  | edge
  /-- The start or the end of a word, or no such place. -/
  | boundary

/-- Whether an atom is known in some modes. -/
def Atom.isKnown (m : Modes) : Atom → Bool
  | literal _ => !(m.unicode && m.ignoreCase)
  | byte n => if m.unicode then !m.ignoreCase else n < 0x80
  | any => m.unicode
  | kind negated => !m.unicode && !negated
  | edge => true
  | boundary => true

/-- Whether an atom can be a member of a set. -/
def Atom.isMember (m : Modes) : Atom → Bool
  | literal c => if m.unicode then !m.ignoreCase else c.toNat < 0x80
  | any => false
  | edge => false
  | boundary => false
  | a => a.isKnown m

/-- The code point at an end of a range. -/
def Atom.code? : Atom → Option Nat
  | literal c => some c.toNat
  | byte n => some n
  | _ => none

/-- A number of so many hexadecimal digits, given what it is so far. -/
def scanHex (m : Modes) : Nat → Nat → List Char → Option (Nat × List Char)
  | 0, n, cs => some (n, cs)
  | width + 1, n, cs =>
    match m.skip cs with
    | [] => none
    | c :: cs => if isHexDigit c then scanHex m width (n * 16 + digitValue c) cs else none

/-- A character by its code point. -/
def scanCode (m : Modes) (width : Nat) (cs : List Char) : Option (Atom × List Char) := do
  let (n, cs) ← scanHex m width 0 cs
  if n.isValidChar then some (.literal (Char.ofNat n), cs) else none

/-- An escape, behind its backslash. Signs stand for themselves; letters and digits have a meaning or none. -/
def scanEscape (m : Modes) : List Char → Option (Atom × List Char)
  | [] => none
  | c :: cs =>
    match c with
    | 'x' => (scanHex m 2 0 cs).map fun (n, cs) => (.byte n, cs)
    | 'u' => scanCode m 4 cs
    | 'U' => scanCode m 8 cs
    | 'a' => some (.literal '\x07', cs)
    | 'f' => some (.literal '\x0c', cs)
    | 't' => some (.literal '\t', cs)
    | 'n' => some (.literal '\n', cs)
    | 'r' => some (.literal '\r', cs)
    | 'v' => some (.literal '\x0b', cs)
    | c =>
      if c ∈ ['d', 's', 'w'] then some (.kind false, cs)
      else if c ∈ ['D', 'S', 'W'] then some (.kind true, cs)
      else if c ∈ ['A', 'z'] then some (.edge, cs)
      else if c ∈ ['b', 'B', '<', '>'] then some (.boundary, cs)
      else if c.toNat < 0x80 && !c.isAlphanum then some (.literal c, cs)
      else none

/-! ## Heights -/

def taller (a b : Nat) : Nat := if a ≤ b then b else a

/-- The height of parts in a row: one part is as high as it is, and several are one higher than the highest. -/
def rowHeight : List Nat → Nat
  | [] => 0
  | [height] => height
  | heights => heights.foldl taller 0 + 1

/-! ## Sets of characters -/

/-- A set between brackets that is still open: the heights of its members since the last operator, and the
height of all before that. -/
structure OpenSet where
  members : List Nat
  left : Option Nat := none

namespace OpenSet

def height (s : OpenSet) : Nat :=
  match s.left with
  | none => rowHeight s.members
  | some left => taller left (rowHeight s.members) + 1

def add (s : OpenSet) (height : Nat) : OpenSet := { s with members := height :: s.members }

/-- The set behind an operator. -/
def next (s : OpenSet) : OpenSet := ⟨[], some s.height⟩

end OpenSet

/-- The hyphens that come next, given what they follow and a bound on their number. -/
def scanHyphens (m : Modes) : Nat → List Nat → List Char → List Nat × List Char
  | fuel + 1, members, '-' :: cs => scanHyphens m fuel (0 :: members) (m.skip cs)
  | _, members, cs => (members, cs)

/-- The start of a set, behind its bracket. Hyphens there stand for themselves, and so does a bracket that
comes first. A set of all other characters is known in Unicode only. -/
def openSet (m : Modes) (fuel : Nat) (cs : List Char) : Option (OpenSet × List Char) :=
  let (negated, cs) := match m.skip cs with
    | '^' :: cs => (true, m.skip cs)
    | cs => (false, cs)
  let (members, cs) := match scanHyphens m fuel [] cs with
    | ([], ']' :: cs) => ([0], cs)
    | found => found
  if negated && !m.unicode then none
  else if !members.isEmpty && !Atom.isMember m (.literal '-') then none
  else some (⟨members, none⟩, cs)

/-- The sets of ASCII characters that have a name. -/
def setNames : List String :=
  ["alnum", "alpha", "ascii", "blank", "cntrl", "digit", "graph", "lower", "print", "punct", "space", "upper",
    "word", "xdigit"]

/-- A set by its name, behind its bracket: whether it holds all other characters. -/
def scanNamedSet : List Char → Option (Bool × List Char)
  | ':' :: cs =>
    let (negated, cs) := match cs with
      | '^' :: cs => (true, cs)
      | cs => (false, cs)
    match cs.dropWhile (· != ':') with
    | ':' :: ']' :: rest =>
      if String.ofList (cs.takeWhile (· != ':')) ∈ setNames then some (negated, rest) else none
    | _ => none
  | _ => none

/-- A character or an escape in a set. -/
def scanMember (m : Modes) (cs : List Char) : Option (Atom × List Char) := do
  let (a, cs) ← match cs with
    | [] => none
    | '\\' :: cs => scanEscape m cs
    | c :: cs => some (.literal c, cs)
  if a.isMember m then some (a, cs) else none

/-- A member of a set, which may be a range. A hyphen before a bracket or another hyphen makes none. -/
def scanRange (m : Modes) (cs : List Char) : Option (List Char) := do
  let (first, cs) ← scanMember m cs
  match m.skip cs with
  | '-' :: rest =>
    if m.peek rest = some ']' ∨ m.peek rest = some '-' then some ('-' :: rest)
    else
      let (last, rest) ← scanMember m (m.skip rest)
      let low ← first.code?
      let high ← last.code?
      if low ≤ high then some rest else none
  | cs => some cs

/-- The rest of a set and of those around it, the nearest first: the height of the outermost one. -/
def scanSet (m : Modes) : Nat → OpenSet → List OpenSet → List Char → Option (Nat × List Char)
  | 0, _, _, _ => none
  | fuel + 1, s, outer, cs =>
    match m.skip cs with
    | '[' :: cs =>
      match scanNamedSet cs with
      | some (negated, cs) =>
        if if m.unicode then m.ignoreCase else negated then none else scanSet m fuel (s.add 0) outer cs
      | none =>
        match openSet m fuel cs with
        | some (inner, cs) => scanSet m fuel inner (s :: outer) cs
        | none => none
    | ']' :: cs =>
      match outer with
      | [] => some (s.height + 1, cs)
      | around :: outer => scanSet m fuel (around.add (s.height + 1)) outer cs
    | '&' :: '&' :: cs => scanSet m fuel s.next outer cs
    | '-' :: '-' :: cs => scanSet m fuel s.next outer cs
    | '~' :: '~' :: cs => scanSet m fuel s.next outer cs
    | cs =>
      match scanRange m cs with
      | some cs => scanSet m fuel (s.add 0) outer cs
      | none => none

/-! ## Groups -/

/-- A part of a row: signs that switch modes, or a piece of a height, which can be repeated. -/
inductive Part where
  | signs
  | piece (height : Nat)

def Part.height : Part → Nat
  | signs => 0
  | piece height => height

/-- Alternatives: the row that is being read, its last part first, and the heights of the rows before it. -/
structure Rows where
  row : List Part := []
  finished : List Nat := []

namespace Rows

/-- The height of the row that is being read. -/
def lastHeight (r : Rows) : Nat := rowHeight (r.row.map Part.height)

def height (r : Rows) : Nat := rowHeight (r.lastHeight :: r.finished)

def add (r : Rows) (part : Part) : Rows := { r with row := part :: r.row }

/-- Starts another row. -/
def next (r : Rows) : Rows := ⟨[], r.lastHeight :: r.finished⟩

/-- Repeats the last part. -/
def repeat? (r : Rows) : Option Rows :=
  match r.row with
  | .piece height :: row => some { r with row := .piece (height + 1) :: row }
  | _ => none

end Rows

/-- How far a pattern is read: the modes and rows of the group that is open, those of the groups around it,
the names of groups, and whether a boundary goes by the letters of all scripts. -/
structure Progress where
  modes : Modes := {}
  rows : Rows := {}
  outer : List (Modes × Rows) := []
  names : List String := []
  unicodeBoundary : Bool := false

namespace Progress

def add (p : Progress) (part : Part) : Progress := { p with rows := p.rows.add part }

/-- Opens a group that is read in some modes. -/
def enter (p : Progress) (modes : Modes) : Progress :=
  { p with modes, rows := {}, outer := (p.modes, p.rows) :: p.outer }

/-- Closes a group. The modes before it hold again. -/
def leave? (p : Progress) : Option Progress :=
  match p.outer with
  | [] => none
  | (modes, rows) :: outer =>
    some { p with modes, rows := rows.add (.piece (p.rows.height + 1)), outer }

end Progress

/-- Whether a text can name a group. -/
def isGroupName (name : List Char) : Bool :=
  match name with
  | [] => false
  | c :: cs =>
    (c == '_' || isAlphabetic c) && cs.all fun c => c ∈ ['_', '.', '[', ']'] || isAlphanumeric c

/-- The start of a group with a name, behind `<`. No two groups have one name. -/
def scanGroupName (p : Progress) (cs : List Char) : Option (Progress × List Char) :=
  let name := cs.takeWhile (· != '>')
  match cs.dropWhile (· != '>') with
  | [] => none
  | _ :: rest =>
    if isGroupName name && !p.names.contains (String.ofList name) then
      some ({ p.enter p.modes with names := String.ofList name :: p.names }, rest)
    else none

/-- Signs of modes, behind `?`: for a group that follows them, or for the rest of the group they are in. -/
def scanSigns (p : Progress) (cs : List Char) : Option (Progress × List Char) :=
  let signs := cs.takeWhile fun c => c != ':' && c != ')'
  let modes := p.modes.switched signs
  if !areSigns signs then none
  else match cs.dropWhile fun c => c != ':' && c != ')' with
    | ':' :: rest => some (p.enter modes, rest)
    | ')' :: rest => if signs.isEmpty then none else some ({ p.add .signs with modes }, rest)
    | _ => none

/-- The start of a group, behind its bracket. -/
def scanGroup (p : Progress) (cs : List Char) : Option (Progress × List Char) :=
  match p.modes.skip cs with
  | '?' :: 'P' :: '<' :: cs => scanGroupName p cs
  | '?' :: '<' :: cs => scanGroupName p cs
  | '?' :: cs => scanSigns p cs
  | cs => some (p.enter p.modes, cs)

/-! ## Whole patterns -/

/-- An atom outside sets. -/
def addAtom (p : Progress) (a : Atom) : Option Progress :=
  let isBoundary := match a with
    | .boundary => p.modes.unicode
    | _ => false
  if a.isKnown p.modes then
    some { p.add (.piece 0) with unicodeBoundary := p.unicodeBoundary || isBoundary }
  else none

/-- One construct that is complete, or the start or the end of a group. -/
def step (fuel : Nat) (p : Progress) (cs : List Char) : Option (Progress × List Char) :=
  match cs with
  | [] => none
  | '(' :: cs => scanGroup p cs
  | ')' :: cs => p.leave?.map fun p => (p, cs)
  | '|' :: cs => some ({ p with rows := p.rows.next }, cs)
  | '[' :: cs => do
    let (s, cs) ← openSet p.modes fuel cs
    let (height, cs) ← scanSet p.modes fuel s [] cs
    some (p.add (.piece height), cs)
  | '\\' :: cs => do
    let (a, cs) ← scanEscape p.modes cs
    let p ← addAtom p a
    some (p, cs)
  | c :: cs =>
    if c = '\x7b' then none
    else if c = '?' ∨ c = '*' ∨ c = '+' then
      p.rows.repeat?.map fun rows =>
        ({ p with rows }, match cs with
          | '?' :: cs => cs
          | cs => cs)
    else
      let a : Atom := if c = '.' then .any else if c = '^' ∨ c = '$' then .edge else .literal c
      (addAtom p a).map fun p => (p, cs)

/-- All constructs, given a bound on their number. -/
def run : Nat → Progress → List Char → Option Progress
  | 0, _, _ => none
  | fuel + 1, p, cs =>
    match p.modes.skip cs with
    | [] => some p
    | cs =>
      match step (fuel + 1) p cs with
      | some (p, cs) => run fuel p cs
      | none => none

/-- How high a pattern may be. -/
def heightLimit : Nat := 250

/-- Checks that a text is a pattern. -/
def check (text : String) : Except Error Unit :=
  match run (text.length + 1) {} text.toList with
  | none => .error .malformed
  | some p =>
    if !p.outer.isEmpty || heightLimit < p.rows.height then .error .malformed
    else if p.unicodeBoundary then .error .unicodeBoundary
    else .ok ()

end TreeShell.Log.Pattern
