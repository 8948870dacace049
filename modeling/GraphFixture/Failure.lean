import GraphFixture.Generator
import GraphFixture.Output.StreamError
import GraphFixture.Text.Utf8

/-!
# Failures of a command

A command fails because no fixture comes about or because the fixture cannot be
written.  A failure is reported as a chain of texts, each one caused by the
next, after the text of what was being done.
-/

namespace GraphFixture

/-- Why a command failed. -/
inductive Failure where
  /-- The output file could not be created or written. -/
  | file (path : ByteString) (cause : StreamError)
  /-- The standard output could not be written. -/
  | stdout (cause : StreamError)
  /-- No fixture came about. -/
  | fixture (error : FixtureError)
  deriving DecidableEq, Repr

namespace Failure

/-- The text of a failure by itself. -/
def message : Failure → String
  | .file path cause =>
      String.join ["failed to write \x60", path.shown, "\x60: ", cause.message]
  | .stdout cause =>
      String.join ["failed to write fixture to stdout: ", cause.message]
  | .fixture error => error.message

/-- The text of a failure followed by the texts of what caused it. -/
def chain : Failure → List String
  | .file path cause => [message (.file path cause), cause.message]
  | .stdout cause => [message (.stdout cause), cause.message]
  | .fixture error => error.chain

/-- The stable code of a failure.  Only the failure to make a fixture has one. -/
def code? : Failure → Option String
  | .file _ _ => none
  | .stdout _ => none
  | .fixture error => error.code?

/-- What was being done when a failure came up. -/
inductive Activity where
  | executing
  | emitting
  deriving DecidableEq, Repr

/-- The text that tells what was being done. -/
def Activity.message : Activity → String
  | .executing => "failed to execute command"
  | .emitting => "failed to emit fixture"

/-- The text that reports a failure: what was being done and the chain of causes. -/
def report (failure : Failure) (activity : Activity) : String :=
  ": ".intercalate (activity.message :: failure.chain)

end Failure
end GraphFixture
