import GraphFixture.Log.Threshold

/-!
# Directives of the log

A directive sets the threshold for what its condition applies to.  The condition
may ask for a target, for a span of some name, and for a named value.

A general directive decides by itself about events and spans.  A scoped one
singles out spans: it keeps them, and while such a span is open everything
inside it is kept down to the directive's threshold, provided that the value it
expects was known when the span opened.
-/

namespace GraphFixture
namespace Log

/-- The value that a directive expects. -/
inductive Expected where
  | flag (value : Bool)
  | number (value : UInt64)
  /-- A real number or a pattern.  No value that is known when a span opens is
  one. -/
  | other (text : List Char)
  deriving DecidableEq, Repr

/-- Whether a value is the one that is expected. -/
def Expected.isMetBy : Expected → Value → Bool
  | .flag expected, .flag value => expected = value
  | .number expected, .number value => expected.toNat = value
  | _, _ => false

/-- A named value that a directive asks for, and perhaps expects to be some
value. -/
structure FieldCondition where
  name : List Char
  expected : Option Expected := none
  deriving DecidableEq, Repr

/-- What a directive applies to. -/
structure Condition where
  /-- The text that targets start with, empty for all targets. -/
  target : List Char := []
  span : Option (List Char) := none
  field : Option FieldCondition := none
  deriving DecidableEq, Repr

namespace Condition

/-- Whether a condition asks for a value, and not only for the name of one. -/
def expectsValue (condition : Condition) : Bool :=
  (condition.field.bind FieldCondition.expected).isSome

/-- Whether a condition can be decided without looking at the spans that are open. -/
def isGeneral (condition : Condition) : Bool :=
  condition.span.isNone && !condition.expectsValue

/-- Whether a condition can single out a span. -/
def isScoped (condition : Condition) : Bool :=
  condition.span.isSome || condition.field.isSome

/-- Whether a target begins with the text that a condition asks for. -/
def acceptsTarget (condition : Condition) (target : String) : Bool :=
  condition.target.isPrefixOf target.toList

/-- Whether the named value that the condition asks for is among some names. -/
def acceptsNames (condition : Condition) (names : List String) : Bool :=
  match condition.field with
  | none => true
  | some field => names.any fun name => name.toList = field.name

/-- Whether a general directive applies to an event. -/
def acceptsEvent (condition : Condition) (event : Event) : Bool :=
  condition.acceptsTarget event.target && condition.acceptsNames event.fieldNames

/-- Whether a condition singles out a span by its target, its name and its fields. -/
def singlesOut (condition : Condition) (span : Span) : Bool :=
  condition.acceptsTarget span.target &&
    (condition.span.all fun name => span.name.toList = name) &&
    condition.acceptsNames span.fieldNames

/-- Whether the expected value was known when a span opened. -/
def isMetBy (condition : Condition) (span : Span) : Bool :=
  match condition.field with
  | none => true
  | some field =>
      match field.expected with
      | none => true
      | some expected =>
          span.opening.any fun known =>
            known.1.toList = field.name && expected.isMetBy known.2

/-- Whether one general condition is more specific than another that applies as
well: it asks for a longer target, or else for a named value, or else for one
whose name comes later. -/
def outranks (first second : Condition) : Bool :=
  if first.target.length = second.target.length then
    match first.field, second.field with
    | some first, some second => decide (second.name < first.name)
    | some _, none => true
    | none, _ => false
  else second.target.length < first.target.length

end Condition

/-- A threshold for what a condition applies to. -/
structure Directive where
  condition : Condition := {}
  threshold : Threshold
  deriving DecidableEq, Repr

end Log
end GraphFixture
