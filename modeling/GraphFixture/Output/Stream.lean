import GraphFixture.Output.StreamError
import GraphFixture.Text.Utf8

/-!
# Byte streams and buffered delivery

A stream takes bytes a call at a time.  It may take few of them in one call and
it may stop for good after a number of bytes.  A delivery puts a whole byte
string through a buffer: a string that is shorter than the buffer goes out when
the buffer is flushed, a longer one goes straight to the stream.  In both cases
the stream receives a prefix of the bytes, and all of them if nothing fails.
-/

namespace GraphFixture

/-- What a stream does when it takes no more bytes. -/
inductive Exhaustion where
  /-- Every further write fails. -/
  | fails (error : StreamError)
  /-- Every further write takes no byte. -/
  | takesNothing
  deriving DecidableEq, Repr

/-- What takes bytes a call at a time. -/
structure Stream where
  /-- What the stream has taken so far. -/
  received : Array UInt8 := #[]
  /-- The number of bytes that the stream takes in all, if it has an end. -/
  limit : Option Nat := none
  /-- The number of bytes that the stream takes in one call, if it is bounded. -/
  chunk : Option Nat := none
  /-- What happens at the limit. -/
  exhaustion : Exhaustion := .fails .brokenPipe
  /-- How flushing fails, if it does. -/
  flushError : Option StreamError := none
  deriving DecidableEq, Repr

namespace Stream

/-- A stream that has no space left from the start. -/
def full : Stream where
  limit := some 0
  exhaustion := .fails (.system .noSpaceLeft)

/-- Whether the stream has taken as many bytes as it ever will. -/
def isExhausted (stream : Stream) : Bool :=
  match stream.limit with
  | none => false
  | some limit => limit ≤ stream.received.size

/-- The bytes that one call takes of those offered, while the stream is not
exhausted. -/
def portion (stream : Stream) (bytes : ByteString) : ByteString :=
  let whole := match stream.limit with
    | none => bytes
    | some limit => bytes.take (limit - stream.received.size)
  match stream.chunk with
  | none => whole
  | some chunk => whole.take chunk

/-- A call takes a prefix of the bytes offered. -/
theorem portion_isPrefix (stream : Stream) (bytes : ByteString) :
    stream.portion bytes <+: bytes := by
  unfold portion
  split <;> split
  · exact List.prefix_refl _
  · exact List.take_prefix _ _
  · exact List.take_prefix _ _
  · exact (List.take_prefix _ _).trans (List.take_prefix _ _)

/-- Offer bytes to the stream in one call.  The result is the number taken. -/
def offer (stream : Stream) (bytes : ByteString) :
    Except StreamError Nat × Stream :=
  if stream.isExhausted then
    match stream.exhaustion with
    | .fails error => (.error error, stream)
    | .takesNothing => (.ok 0, stream)
  else
    let taken := stream.portion bytes
    (.ok taken.length, { stream with received := stream.received ++ taken })

/-- Offer bytes until all are taken.  A call that takes none of them ends the
attempt with the given error.  The bytes that were not taken are returned. -/
def push (stuck : StreamError) (stream : Stream) :
    ByteString → Except StreamError Unit × ByteString × Stream
  | [] => (.ok (), [], stream)
  | byte :: rest =>
      match stream.offer (byte :: rest) with
      | (.error error, next) => (.error error, byte :: rest, next)
      | (.ok 0, next) => (.error stuck, byte :: rest, next)
      | (.ok (count + 1), next) => push stuck next (rest.drop count)
  termination_by bytes => bytes.length
  decreasing_by simp only [List.length_drop, List.length_cons]; omega

/-- Ask the stream to pass on what it has taken. -/
def flush (stream : Stream) : Except StreamError Unit :=
  match stream.flushError with
  | none => .ok ()
  | some error => .error error

/-- The number of bytes that the buffer holds. -/
def bufferSize : Nat :=
  8192

/-- Deliver bytes that were collected in the buffer.  If that fails, the buffer
offers what is left once more when it is closed. -/
def deliverBuffered (stream : Stream) (bytes : ByteString) :
    Except StreamError Unit × Stream :=
  match stream.push .bufferStuck bytes with
  | (.ok (), _, next) => (next.flush, next)
  | (.error error, rest, next) =>
      (.error error, (next.push .bufferStuck rest).2.2)

/-- Deliver bytes past the buffer. -/
def deliverDirectly (stream : Stream) (bytes : ByteString) :
    Except StreamError Unit × Stream :=
  match stream.push .writeStuck bytes with
  | (.ok (), _, next) => (next.flush, next)
  | (.error error, _, next) => (.error error, next)

/-- Deliver bytes through the buffer and flush the stream. -/
def deliver (stream : Stream) (bytes : ByteString) :
    Except StreamError Unit × Stream :=
  if bytes.length < bufferSize then stream.deliverBuffered bytes
  else stream.deliverDirectly bytes

end Stream
end GraphFixture
