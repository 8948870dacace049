/-!
# Failures of streams and files

The causes for which a write to a stream or to a file can fail, with the texts
that describe them.
-/

namespace GraphFixture

/-- A refusal of the operating system. -/
inductive SystemError where
  | noSuchFile
  | noSuchDevice
  | permissionDenied
  | notADirectory
  | isADirectory
  | programInUse
  | noSpaceLeft
  | nameTooLong
  deriving DecidableEq, Repr

namespace SystemError

/-- The number by which the operating system knows a refusal. -/
def number : SystemError → Nat
  | .noSuchFile => 2
  | .noSuchDevice => 6
  | .permissionDenied => 13
  | .notADirectory => 20
  | .isADirectory => 21
  | .programInUse => 26
  | .noSpaceLeft => 28
  | .nameTooLong => 36

/-- The words in which the operating system describes a refusal. -/
def description : SystemError → String
  | .noSuchFile => "No such file or directory"
  | .noSuchDevice => "No such device or address"
  | .permissionDenied => "Permission denied"
  | .notADirectory => "Not a directory"
  | .isADirectory => "Is a directory"
  | .programInUse => "Text file busy"
  | .noSpaceLeft => "No space left on device"
  | .nameTooLong => "File name too long"

/-- The text of a refusal: its description and its number. -/
def message (error : SystemError) : String :=
  error.description ++ " (os error " ++ toString error.number ++ ")"

end SystemError

/-- Why a stream or a file did not take what was written to it. -/
inductive StreamError where
  | brokenPipe
  | permissionDenied
  | notFound
  | storageFull
  | wouldBlock
  | timedOut
  | connectionReset
  | unexpectedEnd
  | writeZero
  | other
  /-- The stream took none of what was left in the buffer. -/
  | bufferStuck
  /-- The stream took none of what was left of a direct write. -/
  | writeStuck
  /-- The path holds a byte that no path may hold. -/
  | nulInPath
  | system (error : SystemError)
  | custom (text : String)
  deriving DecidableEq, Repr

namespace StreamError

/-- The text of a failure. -/
def message : StreamError → String
  | .brokenPipe => "broken pipe"
  | .permissionDenied => "permission denied"
  | .notFound => "entity not found"
  | .storageFull => "no storage space"
  | .wouldBlock => "operation would block"
  | .timedOut => "timed out"
  | .connectionReset => "connection reset"
  | .unexpectedEnd => "unexpected end of file"
  | .writeZero => "write zero"
  | .other => "other error"
  | .bufferStuck => "failed to write the buffered data"
  | .writeStuck => "failed to write whole buffer"
  | .nulInPath => "file name contained an unexpected NUL byte"
  | .system error => error.message
  | .custom text => text

end StreamError
end GraphFixture
