import GraphFixture.CommandLine.Parse
import GraphFixture.Log.Setup
import GraphFixture.Run.Generation
import GraphFixture.Text.Lines

/-!
# One run of the program

A run sets up the log, reads the command line, samples a fixture and emits it.
The first of these steps that fails decides the exit code: zero for success and
for help, two for a refused command line, one for any other failure.  All but
the last step is planned without touching a file or a stream.
-/

namespace GraphFixture

/-- What a run finds when it starts. -/
structure Environment where
  logSettings : Log.Settings := {}
  /-- A word of operating-system entropy, or why there is none. -/
  entropy : Except String UInt64
  files : FileSystem
  stdout : Stream

/-- What a run leaves behind. -/
structure Outcome where
  exitCode : Nat
  /-- The standard output with what it received. -/
  stdout : Stream
  /-- The text on the diagnostic stream. -/
  stderr : List Char
  files : FileSystem

namespace Run

/-- The exit code of a run that did all it was asked for. -/
def successCode : Nat :=
  0

/-- The exit code of a run that failed. -/
def failureCode : Nat :=
  1

/-- The exit code of a run that was broken off because its fixture cannot be
represented. -/
def abortCode : Nat :=
  101

/-! ## Planning -/

/-- What is left to do once a run has read its settings and its arguments. -/
inductive Plan where
  /-- Leave with an exit code, a text for the standard output and a text for the
  diagnostic stream. -/
  | leave (exitCode : Nat) (text diagnostics : List Char)
  /-- Emit a fixture after the given events. -/
  | emit (setup : Log.Setup) (job : Job) (events : List Log.Event)

/-- Messages as they stand on the diagnostic stream, a line feed after each. -/
def diagnosticsOf (messages : List String) : List Char :=
  Lines.join (messages.map String.toList)

/-- Leave because the log could not be set up. -/
def abandon (error : Log.UnsupportedFormat) : Plan :=
  .leave failureCode []
    (diagnosticsOf [String.join ["failed to initialize logging: ", error.message]])

/-- Answer a command line that is not carried out.  Help that was asked for goes
to the standard output, everything else to the diagnostic stream. -/
def decline (program : Option String) (refusal : CommandLine.Refusal) : Plan :=
  if refusal.isHelp then
    .leave refusal.exitCode (refusal.text .stream program).toList []
  else
    .leave refusal.exitCode [] (refusal.text .stream program).toList

/-- Leave because no fixture came about.  An error without a stable code breaks
the run off. -/
def giveUp (setup : Log.Setup) (error : FixtureError)
    (events : List Log.Event) : Plan :=
  match error.code? with
  | none => .leave abortCode [] (diagnosticsOf [error.message])
  | some _ =>
      .leave failureCode []
        (diagnosticsOf (setup.lines
          (events ++ [Journal.runFailed (.fixture error) .executing])))

/-- Plan to carry out an accepted command line. -/
def prepare (setup : Log.Setup) (invocation : CommandLine.Invocation)
    (entropy : Except String UInt64) : Plan :=
  let generation := Generation.run invocation.recipe entropy
  match generation.result with
  | .error error => giveUp setup error generation.events
  | .ok fixture => .emit setup (invocation.job fixture) generation.events

/-- Plan a run on its arguments, the name of the program first. -/
def plan (arguments : List ByteString) (settings : Log.Settings)
    (entropy : Except String UInt64) : Plan :=
  match Log.Setup.ofSettings settings with
  | .error error => abandon error
  | .ok setup =>
      match CommandLine.parse arguments with
      | .error refusal => decline (CommandLine.programName arguments) refusal
      | .ok invocation => prepare setup invocation entropy

/-! ## Carrying out -/

/-- The exit code after an attempt to emit a fixture. -/
def exitCodeOf : Except Failure Unit → Nat
  | .ok () => successCode
  | .error _ => failureCode

/-- The diagnostics before an attempt to emit a fixture. -/
def diagnosticsBefore (setup : Log.Setup) (events : List Log.Event) : List Char :=
  diagnosticsOf (setup.lines events)

/-- The diagnostics after an attempt to emit a fixture. -/
def diagnosticsAfter (setup : Log.Setup) (job : Job)
    (result : Except Failure Unit) : List Char :=
  diagnosticsOf (setup.lines (Journal.emitted job result))

/-- The places that a run may write to.  Its standard output is the fallback, and
a path may lead to it as well. -/
def destinations (environment : Environment) : Destinations where
  files := environment.files
  fallback := environment.stdout
  console := { output := environment.stdout }

/-- The standard output after a job.  A job with a path writes to it only if the
path leads there. -/
def standardOutput (job : Job) (after : Destinations) : Stream :=
  if job.output = none then after.fallback else after.console.output

/-- The text that a job wrote to the diagnostic stream by a path. -/
def emittedDiagnostics (after : Destinations) : List Char :=
  Utf8.decodeLossy after.console.diagnostics.received.toList

/-- Carry out a plan in the environment of a run. -/
def carryOut (environment : Environment) : Plan → Outcome
  | .leave exitCode text diagnostics =>
      { exitCode := exitCode
        stdout := (environment.stdout.deliver (Utf8.encode text)).2
        stderr := diagnostics
        files := environment.files }
  | .emit setup job events =>
      let emission := Emission.run job (destinations environment)
      { exitCode := exitCodeOf emission.result
        stdout := standardOutput job emission.destinations
        stderr := diagnosticsBefore setup events ++
          emittedDiagnostics emission.destinations ++
          diagnosticsAfter setup job emission.result
        files := emission.destinations.files }

end Run

/-- Run the program on its arguments, its own name first. -/
def run (arguments : List ByteString) (environment : Environment) : Outcome :=
  Run.carryOut environment
    (Run.plan arguments environment.logSettings environment.entropy)

end GraphFixture
