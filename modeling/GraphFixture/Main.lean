import GraphFixture.Run

/-!
# The command

The outer layer of the program: it hands the arguments, the two settings of the
log and a word of entropy to the plan of a run, and then writes to the real
file or to the real standard output.
-/

namespace GraphFixture
namespace Command

/-- The bytes of a setting in the environment of the process. -/
def setting (name : String) : IO (Option ByteString) := do
  return (← IO.getEnv name).map ByteString.ofWord

/-- A word of operating-system entropy. -/
def drawEntropy : IO (Except String UInt64) := do
  try
    let bytes ← IO.getRandomBytes 8
    return .ok (bytes.toList.foldl (fun word byte => word * 256 + byte.toUInt64) 0)
  catch error =>
    return .error (toString error)

/-- A refusal of the operating system from its number and its description. -/
def refusal (number : UInt32) (description : String) : StreamError :=
  .custom (description ++ " (os error " ++ toString number ++ ")")

/-- The cause of a failure, as far as it was reported with a number. -/
def causeOf : IO.Error → StreamError
  | .noFileOrDirectory _ number description => refusal number description
  | .inappropriateType _ number description => refusal number description
  | .invalidArgument _ number description => refusal number description
  | .permissionDenied _ number description => refusal number description
  | .resourceExhausted _ number description => refusal number description
  | .resourceVanished number description => refusal number description
  | .resourceBusy number description => refusal number description
  | .otherError number description => refusal number description
  | error => .custom (toString error)

/-- Write bytes with an action and report how that went. -/
def attempt (write : ByteArray → IO Unit) (bytes : ByteString) :
    IO (Except StreamError Unit) := do
  try
    write ⟨bytes.toArray⟩
    return .ok ()
  catch error =>
    return .error (causeOf error)

/-- Emit the bytes of a job to the real file or the real standard output. -/
def emit (job : Job) : IO (Except Failure Unit) := do
  let result ← attempt (fun bytes => do
    let handle ← match job.output with
      | some path => IO.FS.Handle.mk (ByteString.shown path) .write
      | none => do
          let stdout ← IO.getStdout
          stdout.write bytes
          stdout.flush
          return
    handle.write bytes
    handle.flush) job.bytes
  return result.mapError fun cause =>
    match job.output with
    | some path => .file path cause
    | none => .stdout cause

/-- Write a text to the diagnostic stream. -/
def report (diagnostics : List Char) : IO Unit := do
  (← IO.getStderr).putStr (String.ofList diagnostics)

/-- Carry out a plan and return the exit code. -/
def carryOut : Run.Plan → IO UInt32
  | .leave exitCode text diagnostics => do
      report diagnostics
      try IO.print (String.ofList text) catch _ => pure ()
      return UInt32.ofNat exitCode
  | .emit setup job events => do
      report (Run.diagnosticsBefore setup events)
      let result ← emit job
      report (Run.diagnosticsAfter setup job result)
      return UInt32.ofNat (Run.exitCodeOf result)

end Command
end GraphFixture

open GraphFixture in
/-- Generate one fixture as the command line asks. -/
def main (arguments : List String) : IO UInt32 := do
  let settings : Log.Settings :=
    { format := ← Command.setting "NODEFORGE_LOG_FORMAT"
      filter := ← Command.setting "RUST_LOG" }
  let words := CommandLine.standardProgramName :: arguments
  Command.carryOut
    (Run.plan (words.map ByteString.ofWord) settings (← Command.drawEntropy))
