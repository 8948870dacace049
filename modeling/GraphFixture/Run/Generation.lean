import GraphFixture.CommandLine.Invocation
import GraphFixture.Run.Journal

/-!
# Generating the job of a run

A run that was asked for a fixture builds the generator, settles on a seed,
samples the fixture and joins it with its layout and its output path.  What
happens is noted in the journal.
-/

namespace GraphFixture

/-- What generating came to, with its events. -/
structure Generation where
  result : Except FixtureError Fixture
  events : List Log.Event

namespace Generation

/-- Sample the fixture of a seed that was settled on. -/
def fromSeed (recipe : Recipe) (generator : Generator) (seed : UInt64) :
    Generation :=
  match generator.sampleSeeded seed with
  | .ok fixture => ⟨.ok fixture, Journal.generated recipe seed fixture⟩
  | .error error => ⟨.error error, []⟩

@[simp] theorem result_fromSeed (recipe : Recipe) (generator : Generator)
    (seed : UInt64) :
    (fromSeed recipe generator seed).result = generator.sampleSeeded seed := by
  unfold fromSeed
  cases generator.sampleSeeded seed <;> rfl

/-- Generate a fixture from a recipe.  The first step that fails ends the generation. -/
def run (recipe : Recipe) (entropy : Except String UInt64) : Generation :=
  match recipe.build with
  | .error error => ⟨.error error, Journal.refused recipe error⟩
  | .ok generator =>
      match generator.chooseSeed entropy with
      | .error error => ⟨.error error, Journal.unseeded recipe error⟩
      | .ok seed => fromSeed recipe generator seed

/-- What generating comes to is what the generator samples. -/
theorem result_run (recipe : Recipe) (entropy : Except String UInt64) :
    (run recipe entropy).result =
      recipe.build.bind fun generator => generator.sample entropy := by
  unfold run
  cases recipe.build with
  | error error => rfl
  | ok generator =>
      simp only [Except.bind, Generator.sample]
      cases generator.chooseSeed entropy with
      | error error => rfl
      | ok seed => exact result_fromSeed recipe generator seed

end Generation

/-- The job that an accepted command line and a fixture make. -/
def CommandLine.Invocation.job (invocation : CommandLine.Invocation)
    (fixture : Fixture) : Job where
  fixture := fixture
  layout := invocation.layout
  output := invocation.output

end GraphFixture
