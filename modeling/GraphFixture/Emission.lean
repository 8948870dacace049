import GraphFixture.Failure
import GraphFixture.Fixture
import GraphFixture.Log.Event
import GraphFixture.Output.FileSystem

/-!
# Emitting a fixture

A fixture is written in its layout to exactly one destination: the file or
device that was named, or else the stream that is there in any case.  A file is
created, or emptied, before anything is written.
-/

namespace GraphFixture

/-- A fixture together with how and where it is to be written. -/
structure Job where
  fixture : Fixture
  layout : Layout
  /-- The path of the file; without one the fallback stream is written. -/
  output : Option ByteString
  deriving DecidableEq, Repr

namespace Job

/-- The bytes that a job writes: the text of its fixture in its layout. -/
def bytes (job : Job) : ByteString :=
  Utf8.encode (job.fixture.render job.layout)

end Job

/-- The places that a job may write to. -/
structure Destinations where
  files : FileSystem
  /-- Where a job without a path writes. -/
  fallback : Stream
  /-- The streams of the process, which a path may lead to. -/
  console : Console := {}
  deriving DecidableEq, Repr

/-- What a job came to, and the places that it may have written to. -/
structure Emission where
  result : Except Failure Unit
  destinations : Destinations

namespace Emission

/-- Write bytes to a file or device that is open. -/
def toTarget (bytes : ByteString) (target : Target)
    (destinations : Destinations) : Except StreamError Unit × Destinations :=
  match target with
  | .file location =>
      let (result, files) := destinations.files.fill location bytes
      (result, { destinations with files })
  | .device found =>
      let (result, console) := found.deliver destinations.console bytes
      (result, { destinations with console })

/-- Open what a path names and write bytes to it. -/
def toPath (bytes path : ByteString) (destinations : Destinations) :
    Except StreamError Unit × Destinations :=
  match destinations.files.create path with
  | .error error => (.error error, destinations)
  | .ok (target, files) => toTarget bytes target { destinations with files }

/-- Write the bytes of a job to the one place that they are for. -/
def run (job : Job) (destinations : Destinations) : Emission :=
  match job.output with
  | some path =>
      let (result, destinations) := toPath job.bytes path destinations
      { result := result.mapError (.file path), destinations }
  | none =>
      let (result, fallback) := destinations.fallback.deliver job.bytes
      { result := result.mapError .stdout
        destinations := { destinations with fallback } }

end Emission
end GraphFixture
