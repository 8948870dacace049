import GraphFixture.Emission
import GraphFixture.Log.Event

/-!
# The journal of a run

Generating a fixture takes place in three nested spans: the command, the
generation and the sampling.  A failure is reported in each span that it leaves,
before the span ends.  Emitting takes place outside all spans.
-/

namespace GraphFixture
namespace Journal

/-- The target of what the command reports. -/
def commandTarget : String :=
  "nodeforge_cli::cli::commands"

/-- The target of what the sampling reports. -/
def samplingTarget : String :=
  "nodeforge_core::generator"

/-- The target of the event that reports a failed run. -/
def programTarget : String :=
  "nodeforge"

/-- A word as a value of the log. -/
def wordValue (word : UInt64) : Log.Value :=
  .number word.toNat

/-! ## Spans -/

/-- The span of a command. -/
def commandSpan : Log.Span where
  name := "cli.run"
  target := commandTarget
  later := [("command", some (.text "generate"))]

/-- The span of generating a fixture. -/
def generationSpan (recipe : Recipe) : Log.Span where
  name := "cli.generate"
  target := commandTarget
  opening :=
    [("node_count", wordValue recipe.nodeCount),
      ("seeded", .flag recipe.seed.isSome)]

/-- The span of sampling, with the seed once it is known. -/
def samplingSpan (recipe : Recipe) (seed : Option UInt64) : Log.Span where
  name := "fixture.sample"
  target := samplingTarget
  opening := [("node_count", wordValue recipe.nodeCount)]
  later := [("seed", seed.map wordValue)]

/-- The spans around the sampling. -/
def outerSpans (recipe : Recipe) : List Log.Span :=
  [commandSpan, generationSpan recipe]

/-! ## Events -/

/-- The event of a seed that was drawn because none was given. -/
def seedDrawn (recipe : Recipe) (seed : UInt64) : Log.Event where
  level := .info
  target := samplingTarget
  message := some "drew fixture seed from operating-system entropy"
  fields := [("seed", wordValue seed)]
  context := outerSpans recipe ++ [samplingSpan recipe none]

/-- The event of a fixture that was sampled. -/
def fixtureSampled (recipe : Recipe) (seed : UInt64) (fixture : Fixture) :
    Log.Event where
  level := .debug
  target := samplingTarget
  message := some "fixture sampled"
  fields := [("blocks", .number fixture.blocks.length)]
  context := outerSpans recipe ++ [samplingSpan recipe (some seed)]

/-- The event of a fixture that is ready to be emitted. -/
def fixtureGenerated (recipe : Recipe) (seed : UInt64) : Log.Event where
  level := .info
  target := commandTarget
  message := some "fixture generated"
  fields :=
    [("node_count", wordValue recipe.nodeCount), ("seed", wordValue seed)]
  context := outerSpans recipe

/-- The event of a fixture that was written to a path. -/
def fixtureWritten (path : ByteString) : Log.Event where
  level := .info
  target := commandTarget
  message := some "fixture written"
  fields := [("path", .text (ByteString.shown path))]

/-- The event of a run that fails. -/
def runFailed (failure : Failure) (activity : Failure.Activity) : Log.Event where
  level := .error
  target := programTarget
  message := some "command execution failed"
  fields := ("error", .text (failure.report activity)) ::
    (failure.code?.map fun code => ("code", Log.Value.text code)).toList
  absent := if failure.code?.isSome then [] else ["code"]

/-! ## Sequences of events -/

/-- The end of a span, after the failure that leaves it if there is one. -/
def leaving (outer : List Log.Span) (span : Log.Span)
    (failure : Option FixtureError) : List Log.Event :=
  (failure.map fun error =>
    Log.Event.failing span.target (outer ++ [span]) error.message).toList ++
  [Log.Event.closing outer span]

/-- The ends of the spans around sampling. -/
def leavingOuter (recipe : Recipe) (failure : Option FixtureError) :
    List Log.Event :=
  leaving [commandSpan] (generationSpan recipe) failure ++
    leaving [] commandSpan failure

/-- The events of a recipe from which no generator can be built. -/
def refused (recipe : Recipe) (error : FixtureError) : List Log.Event :=
  leavingOuter recipe (some error)

/-- The events of a sampling for which no seed could be drawn. -/
def unseeded (recipe : Recipe) (error : FixtureError) : List Log.Event :=
  leaving (outerSpans recipe) (samplingSpan recipe none) (some error) ++
    leavingOuter recipe (some error)

/-- The events of a generation that comes to a fixture. -/
def generated (recipe : Recipe) (seed : UInt64) (fixture : Fixture) :
    List Log.Event :=
  (if recipe.seed.isSome then [] else [seedDrawn recipe seed]) ++
    [fixtureSampled recipe seed fixture] ++
    leaving (outerSpans recipe) (samplingSpan recipe (some seed)) none ++
    [fixtureGenerated recipe seed] ++
    leavingOuter recipe none

/-- The events of an attempt to emit a fixture. -/
def emitted (job : Job) (result : Except Failure Unit) : List Log.Event :=
  match job.output, result with
  | some path, .ok () => [fixtureWritten path]
  | _, .error failure => [runFailed failure .emitting]
  | none, .ok () => []

end Journal
end GraphFixture
