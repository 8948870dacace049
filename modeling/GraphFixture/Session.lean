import GraphFixture.Generator

/-!
# Sessions on one word source

A session runs several steps one after another on one source.  Each step takes
the words that it needs and leaves the rest to the next one.
-/

namespace GraphFixture
namespace Session

/-- One use of the shared source. -/
inductive Step where
  | word
  | sample (nodeCount : UInt64)
  /-- Sample a fixture through a handle on the source. -/
  | sampleByHandle (nodeCount : UInt64)
  /-- Sample a fixture and write it in a layout. -/
  | render (nodeCount : UInt64) (layout : Layout)
  deriving DecidableEq, Repr

namespace Step

/-- Sample a fixture and write it in the standard layout. -/
def generate (nodeCount : UInt64) : Step :=
  .render nodeCount .standard

end Step

/-- What a step comes to. -/
inductive Reply where
  | word (word : UInt64)
  | fixture (fixture : Fixture)
  | text (text : List Char)
  | failure (error : FixtureError)
  deriving DecidableEq, Repr

variable {Source : Type} [WordSource Source]

/-- Sample a fixture for a node count, leaving the source as it is when there
is none. -/
def sampleFrom (patience : Nat) (nodeCount : UInt64) (source : Source) :
    Except FixtureError Fixture × Source :=
  match ({ nodeCount := nodeCount } : Recipe).build with
  | .error error => (.error error, source)
  | .ok generator =>
      match generator.sampleWith patience source with
      | .error error => (.error error, source)
      | .ok (fixture, rest) => (.ok fixture, rest)

/-- Take one step.  The reply comes with what is left of the source. -/
def runStep (patience : Nat) (step : Step) (source : Source) : Reply × Source :=
  match step with
  | .word =>
      let (word, rest) := WordSource.draw source
      (.word word, rest)
  | .sample nodeCount =>
      match sampleFrom patience nodeCount source with
      | (.ok fixture, rest) => (.fixture fixture, rest)
      | (.error error, rest) => (.failure error, rest)
  | .sampleByHandle nodeCount =>
      match sampleFrom patience nodeCount (Handle.of source) with
      | (.ok fixture, rest) => (.fixture fixture, rest.source)
      | (.error error, rest) => (.failure error, rest.source)
  | .render nodeCount layout =>
      match sampleFrom patience nodeCount source with
      | (.ok fixture, rest) => (.text (fixture.render layout), rest)
      | (.error error, rest) => (.failure error, rest)

/-- Run the steps in order, keeping each reply with the source after it. -/
def run (patience : Nat) : List Step → Source → List (Reply × Source)
  | [], _ => []
  | step :: steps, source =>
      let outcome := runStep patience step source
      outcome :: run patience steps outcome.2

end Session
end GraphFixture
