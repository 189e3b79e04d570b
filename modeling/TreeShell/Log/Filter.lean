import TreeShell.Log.Directive
/-!
# Log filters

A filter decides which events are logged. It holds a rule for each directive that speaks of events alone;
directives that ask for a span or for a field's value never apply, because no event lies in a span. Of the
rules that apply to an event the most specific one decides, and without a rule nothing is logged.
-/

namespace TreeShell.Log

open Text

/-- Up to which level the events of a target with some fields are logged. -/
structure Rule where
  target : Option String
  fields : List String
  threshold : Threshold
  deriving DecidableEq

namespace Rule

/-- The rule of a directive that speaks of events alone. -/
def ofDirective? (d : Directive) : Option Rule :=
  if d.span.isSome || d.fields.any FieldCondition.valued then none
  else some ⟨d.target, d.fields.map FieldCondition.name, d.threshold⟩

/-- The size of a target; no target is less than an empty one. -/
def targetSize (r : Rule) : Nat := (r.target.map fun target => target.utf8ByteSize + 1).getD 0

/-- Whether a rule is more specific than another: by its target's size, then by the number of its fields,
then by their order. -/
def outranks (a b : Rule) : Bool :=
  if a.targetSize ≠ b.targetSize then b.targetSize < a.targetSize
  else if a.fields.length ≠ b.fields.length then b.fields.length < a.fields.length
  else if a.target ≠ b.target then b.target.getD "" < a.target.getD ""
  else b.fields < a.fields

/-- Whether two rules speak of the same events. -/
def sameScope (a b : Rule) : Bool := a.target = b.target && a.fields = b.fields

/-- Whether a rule applies to an event. -/
def applies (r : Rule) (e : Event) : Bool :=
  (match r.target with
    | some target => target.toList.isPrefixOf e.target.toList
    | none => true) &&
  r.fields.all fun field => field = "message" || (e.fields.map Prod.fst).contains field

end Rule

/-- Rules, the most specific first. -/
structure Filter where
  rules : List Rule := []
  deriving DecidableEq

namespace Filter

/-- Puts a rule into its place; a rule of the same scope gives way. -/
def insertRule (rule : Rule) : List Rule → List Rule
  | [] => [rule]
  | r :: rest =>
    if r.sameScope rule then rule :: rest
    else if rule.outranks r then rule :: r :: rest
    else r :: insertRule rule rest

/-- A filter with a further directive. -/
def add (f : Filter) (d : Directive) : Filter :=
  match Rule.ofDirective? d with
  | some rule => ⟨insertRule rule f.rules⟩
  | none => f

def ofDirectives (directives : List Directive) : Filter := directives.foldl add {}

/-- The texts of directives, which stand between commas. -/
def pieces (text : String) : List String := (split ',' text).filter fun piece => piece != ""

/-- The filter of a text, all of whose directives must be well formed. -/
def parse (text : String) : Except (Stop Directive.Error) Filter :=
  ((pieces text).mapM Directive.parse).map ofDirectives

/-- What is said about a directive that is left out. -/
def complaint (piece : String) (e : Directive.Error) : String := "ignoring \x60" ++ piece ++ "\x60: " ++ e.message

/-- The directives of a text that are well formed, unless reading one crashes, and a complaint about each other
one up to there. -/
def parsePieces : List String → Option (List Directive) × List String
  | [] => (some [], [])
  | piece :: rest =>
    let (directives, complaints) := parsePieces rest
    match Directive.parse piece with
    | .ok d => (directives.map (d :: ·), complaints)
    | .error (.failure e) => (directives, complaint piece e :: complaints)
    | .error .crash => (none, [])

/-- The filter of some directives; without any, errors are logged. -/
def ofDirectivesOrErrors (directives : List Directive) : Filter :=
  ofDirectives (if directives.isEmpty then [{ threshold := some .error }] else directives)

/-- The filter of the well-formed directives of a text, unless reading one crashes, with complaints about the
others. -/
def parseLenient (text : String) : Option Filter × List String :=
  let (directives, complaints) := parsePieces (pieces text)
  (directives.map ofDirectivesOrErrors, complaints)

/-- The filter that lets nothing through. -/
def off : Filter := ofDirectives [{ threshold := none }]

/-- Whether an event is logged. -/
def admits (f : Filter) (e : Event) : Bool :=
  match f.rules.find? fun rule => rule.applies e with
  | some ⟨_, _, some threshold⟩ => e.level.rank ≤ threshold.rank
  | _ => false

end Filter

end TreeShell.Log
