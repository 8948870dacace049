import GraphFixture.Output.Stream

/-!
# Devices

A device is a stream that can be reached by a path.  Some devices belong to the
system; the two streams that a process writes to, its console, are devices too.
-/

namespace GraphFixture

/-- One of the two streams that a process writes to. -/
inductive Channel where
  | output
  | diagnostics
  deriving DecidableEq, Repr

/-- The two streams that a process writes to. -/
structure Console where
  output : Stream := {}
  diagnostics : Stream := {}
  deriving DecidableEq, Repr

namespace Console

/-- The stream of a channel. -/
def stream (console : Console) : Channel → Stream
  | .output => console.output
  | .diagnostics => console.diagnostics

/-- Put another stream on a channel. -/
def replace (console : Console) (channel : Channel) (stream : Stream) : Console :=
  match channel with
  | .output => { console with output := stream }
  | .diagnostics => { console with diagnostics := stream }

end Console

/-- What a path can lead to beside files. -/
inductive Device where
  /-- Takes everything and keeps nothing. -/
  | null
  /-- Has no space left. -/
  | full
  /-- A stream of the process itself. -/
  | console (channel : Channel)
  deriving DecidableEq, Repr

namespace Device

/-- A device as a stream that can be written. -/
def stream (console : Console) : Device → Stream
  | .null => {}
  | .full => Stream.full
  | .console channel => console.stream channel

/-- Deliver bytes to a device.  Only a console keeps what it received. -/
def deliver (console : Console) (device : Device) (bytes : ByteString) :
    Except StreamError Unit × Console :=
  let (result, next) := (device.stream console).deliver bytes
  match device with
  | .console channel => (result, console.replace channel next)
  | _ => (result, console)

end Device
end GraphFixture
