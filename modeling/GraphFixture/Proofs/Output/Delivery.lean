import GraphFixture.Emission
import GraphFixture.Proofs.Output.Limit

/-!
# Deliveries to streams and files

A delivery that succeeds has put all its bytes behind those that the stream had
received before, and has changed nothing else about the stream.  A stream that
fails at its end takes the first bytes of a delivery, as many as it has room for;
when the buffer then offers its rest once more there is no room left, so no byte
arrives twice.  A file is such a stream, and since it was emptied when it was
opened it holds nothing but what its storage took.  So a job without a path
succeeds with its stream, and a job whose path leads to no device succeeds once
the file is created and there is room for all bytes of the job; in any case
nothing stands differently elsewhere.
-/

namespace GraphFixture

namespace Stream

open Limit

/-- The stream takes whatever is delivered to it. -/
def AcceptsAll (stream : Stream) : Prop :=
  ∀ bytes, (stream.deliver bytes).1 = .ok ()

/-- The stream with some bytes behind those that it has received. -/
def receive (stream : Stream) (bytes : ByteString) : Stream :=
  { stream with received := stream.received ++ bytes }

@[simp] theorem received_receive (stream : Stream) (bytes : ByteString) :
    (stream.receive bytes).received = stream.received ++ bytes :=
  rfl

theorem receive_nil (stream : Stream) : stream.receive [] = stream := by
  simp [receive]

theorem receive_append (stream : Stream) (first second : ByteString) :
    stream.receive (first ++ second) = (stream.receive first).receive second := by
  simp only [receive]
  congr 1
  apply Array.ext'
  simp

/-- One call takes as many of the first bytes as it says. -/
theorem eq_receive_of_offer {stream next : Stream} {bytes : ByteString} {count : Nat}
    (offered : stream.offer bytes = (.ok count, next)) :
    next = stream.receive (bytes.take count) := by
  unfold offer at offered
  split at offered
  · split at offered
    · simp at offered
    · obtain ⟨count_eq, rfl⟩ := Prod.mk.inj offered
      rw [← Except.ok.inj count_eq, List.take_zero, receive_nil]
  · obtain ⟨count_eq, rfl⟩ := Prod.mk.inj offered
    rw [← Except.ok.inj count_eq, ← List.prefix_iff_eq_take.mp (stream.portion_isPrefix bytes)]
    rfl

theorem eq_receive_of_push {stuck : StreamError} {stream next : Stream}
    {bytes rest : ByteString} (pushed : stream.push stuck bytes = (.ok (), rest, next)) :
    next = stream.receive bytes := by
  induction stream, bytes using push.induct with
  | case1 stream =>
      rw [push] at pushed
      rw [receive_nil, (Prod.mk.inj (Prod.mk.inj pushed).2).2]
  | case2 stream byte bytes error later offered =>
      rw [push, offered] at pushed
      simp at pushed
  | case3 stream byte bytes later offered =>
      rw [push, offered] at pushed
      simp at pushed
  | case4 stream byte bytes count later offered inductionHypothesis =>
      rw [push, offered] at pushed
      rw [inductionHypothesis pushed, eq_receive_of_offer offered, ← receive_append]
      exact congrArg stream.receive (List.take_append_drop (count + 1) (byte :: bytes))

/-- A delivery that succeeds has delivered everything. -/
theorem deliver_of_eq_ok {stream : Stream} {bytes : ByteString}
    (delivered : (stream.deliver bytes).1 = .ok ()) :
    stream.deliver bytes = (.ok (), stream.receive bytes) := by
  have settled (stuck : StreamError) (rest : ByteString) (next : Stream)
      (pushed : stream.push stuck bytes = (.ok (), rest, next)) (flushed : next.flush = .ok ()) :
      (next.flush, next) = (.ok (), stream.receive bytes) := by
    rw [flushed, eq_receive_of_push pushed]
  unfold deliver deliverBuffered deliverDirectly at delivered ⊢
  split at delivered <;> split at delivered <;> rename_i pushed
  · simp only [*, if_true]
    exact settled _ _ _ pushed delivered
  · simp at delivered
  · simp only [*, if_false]
    exact settled _ _ _ pushed delivered
  · simp at delivered

/-! ## Streams with an end -/

variable {stream : Stream} {error : StreamError}

/-- If the stream has an end, it takes bytes up to there and then fails with an
error. -/
structure FailsAtLimit (stream : Stream) (error : StreamError) : Prop where
  exhaustion : stream.limit ≠ none → stream.exhaustion = .fails error
  /-- Before the end each call takes some of the bytes. -/
  moving : stream.chunk ≠ some 0
  flushes : stream.flushError = none

/-- How many more bytes the stream takes, if it has an end. -/
def room (stream : Stream) : Option Nat :=
  stream.limit.map (· - stream.received.size)

theorem FailsAtLimit.receive (failing : stream.FailsAtLimit error) (bytes : ByteString) :
    (stream.receive bytes).FailsAtLimit error where
  exhaustion := failing.exhaustion
  moving := failing.moving
  flushes := failing.flushes

theorem room_receive (stream : Stream) (bytes : ByteString) :
    (stream.receive bytes).room = behind stream.room bytes := by
  have size_eq : (stream.received ++ bytes).size = stream.received.size + bytes.length := by
    simp [← Array.length_toList]
  simp [room, behind, Stream.receive, size_eq, Function.comp_def, Nat.sub_sub]

theorem isExhausted_iff : stream.isExhausted = true ↔ stream.room = some 0 := by
  unfold isExhausted room
  cases stream.limit with
  | none => simp
  | some limit => simp [Nat.sub_eq_zero_iff_le]

theorem portion_eq (stream : Stream) (bytes : ByteString) :
    stream.portion bytes = clip stream.chunk (clip stream.room bytes) := by
  unfold portion room
  cases stream.limit <;> cases stream.chunk <;> rfl

/-! ## One call -/

/-- A call on a stream without room fails.  Any other call takes some of the first
bytes that there is room for. -/
theorem offer_of_failsAtLimit (failing : stream.FailsAtLimit error) {bytes : ByteString}
    (nonempty : bytes ≠ []) :
    stream.room = some 0 ∧ stream.offer bytes = (.error error, stream) ∨
      ∃ count, Admits stream.room (bytes.take (count + 1)) ∧
        stream.offer bytes = (.ok (count + 1), stream.receive (bytes.take (count + 1))) := by
  by_cases full : stream.room = some 0
  · have limited : stream.limit ≠ none := by
      intro endless
      simp [room, endless] at full
    refine .inl ⟨full, ?_⟩
    simp [offer, isExhausted_iff.mpr full, failing.exhaustion limited]
  · have going : stream.isExhausted = false := by
      rw [← Bool.not_eq_true, isExhausted_iff]
      exact full
    have offered : stream.offer bytes = (.ok (stream.portion bytes).length,
        stream.receive (stream.portion bytes)) := by
      simp [offer, going, Stream.receive]
    have some_byte : stream.portion bytes ≠ [] := by
      rw [portion_eq]
      exact clip_ne_nil (clip_ne_nil nonempty full) failing.moving
    obtain ⟨count, length_eq⟩ : ∃ count, (stream.portion bytes).length = count + 1 :=
      Nat.exists_eq_succ_of_ne_zero (Nat.ne_of_gt (List.length_pos_iff.mpr some_byte))
    have taken := List.prefix_iff_eq_take.mp (stream.portion_isPrefix bytes)
    rw [length_eq] at taken offered
    refine .inr ⟨count, ?_, ?_⟩
    · rw [← taken, portion_eq]
      exact (admits_clip bytes).of_isPrefix (clip_isPrefix _)
    · rw [offered, ← taken]

/-! ## Pushes and deliveries -/

/-- A push to a stream without room fails.  Any other push hands over some of the
first bytes that there is room for and goes on with the others. -/
theorem push_step_of_failsAtLimit (stuck : StreamError) (failing : stream.FailsAtLimit error)
    {bytes : ByteString} (nonempty : bytes ≠ []) :
    stream.room = some 0 ∧ stream.push stuck bytes = (.error error, bytes, stream) ∨
      ∃ first rest, bytes = first ++ rest ∧ first ≠ [] ∧ Admits stream.room first ∧
        stream.push stuck bytes = (stream.receive first).push stuck rest := by
  obtain ⟨byte, others, rfl⟩ := List.exists_cons_of_ne_nil nonempty
  rcases offer_of_failsAtLimit failing nonempty with ⟨full, offered⟩ | ⟨count, admitted, offered⟩
  · exact .inl ⟨full, by rw [push, offered]⟩
  · refine .inr ⟨_, _, (List.take_append_drop (count + 1) _).symm, by simp, admitted, ?_⟩
    rw [push, offered]
    rfl

/-- Pushing bytes to a stream puts on it what there is room for and hands back the
rest. -/
theorem push_of_failsAtLimit (stuck : StreamError) (failing : stream.FailsAtLimit error)
    (bytes : ByteString) :
    stream.push stuck bytes =
      (if Admits stream.room bytes then .ok () else .error error,
        bytes.drop (clip stream.room bytes).length,
        stream.receive (clip stream.room bytes)) := by
  induction size : bytes.length using Nat.strongRecOn generalizing stream bytes with
  | ind count inductionHypothesis =>
      by_cases nonempty : bytes = []
      · subst nonempty
        rw [push, clip_nil, receive_nil, if_pos (by simp [Admits]), List.drop_nil]
      rcases push_step_of_failsAtLimit stuck failing nonempty with
        ⟨full, pushed⟩ | ⟨first, rest, rfl, someByte, admitted, pushed⟩
      · rw [pushed, full, if_neg (by simpa using nonempty)]
        simp [clip, receive_nil]
      · have shorter : rest.length < count := by
          rw [← size, List.length_append]
          exact Nat.lt_add_of_pos_left (List.length_pos_iff.mpr someByte)
        rw [pushed, inductionHypothesis _ shorter (failing.receive _) _ rfl, room_receive,
          ← receive_append]
        simp only [admits_append_iff admitted, clip_append, clip_of_admits admitted,
          List.length_append, List.drop_length_add_append]

/-- A delivery puts on the stream what there is room for, each byte once, and
succeeds when that is everything. -/
theorem deliver_of_failsAtLimit (failing : stream.FailsAtLimit error) (bytes : ByteString) :
    stream.deliver bytes =
      (if Admits stream.room bytes then .ok () else .error error,
        stream.receive (clip stream.room bytes)) := by
  have flushed : (stream.receive (clip stream.room bytes)).flush = .ok () := by
    rw [flush, (failing.receive _).flushes]
  unfold deliver deliverBuffered deliverDirectly
  simp only [push_of_failsAtLimit _ failing]
  by_cases admitted : Admits stream.room bytes
  · simp [admitted, flushed]
  · -- The buffer offers its rest to a stream that has no room left.
    have emptied : (stream.receive (clip stream.room bytes)).room = some 0 := by
      rw [room_receive, behind_clip_of_not_admits admitted]
    have unchanged (rest : ByteString) :
        ((stream.receive (clip stream.room bytes)).push .bufferStuck rest).2.2 =
          stream.receive (clip stream.room bytes) := by
      rw [push_of_failsAtLimit _ (failing.receive _), emptied]
      simp [clip, receive_nil]
    simp [admitted, unchanged]

theorem acceptsAll_of_unlimited {stream : Stream} (endless : stream.limit = none)
    (moving : stream.chunk ≠ some 0) (flushes : stream.flushError = none) :
    stream.AcceptsAll := by
  have failing : stream.FailsAtLimit .other :=
    ⟨fun limited => absurd endless limited, moving, flushes⟩
  intro bytes
  rw [deliver_of_failsAtLimit failing, if_pos]
  simp [room, endless]

theorem acceptsAll_default : AcceptsAll {} :=
  acceptsAll_of_unlimited rfl (by decide) rfl

end Stream

namespace Storage

theorem failsAtLimit_stream (storage : Storage) :
    storage.stream.FailsAtLimit storage.error where
  exhaustion _ := rfl
  moving still := Nat.ne_of_gt storage.moving (Option.some.inj still)
  flushes := rfl

theorem room_stream (storage : Storage) : storage.stream.room = storage.room := by
  simp [stream, Stream.room]

end Storage

namespace FileSystem

/-- No device stands where a path leads. -/
def Ordinary (files : FileSystem) (path : ByteString) : Prop :=
  ∀ location device, files.resolve path = .ok location →
    files.lookup location ≠ some (.device device)

/-- There is room for some bytes in a file where a path leads. -/
def HasRoom (files : FileSystem) (path bytes : ByteString) : Prop :=
  ∀ location, files.resolve path = .ok location →
    Limit.Admits (files.storageAt location).room bytes

/-- Only the file at one location differs, and it has a given content. -/
structure Rewritten (before after : FileSystem) (location : Location) (content : ByteString) :
    Prop where
  lookup_self : after.lookup location = some (.file content)
  lookup_of_ne : ∀ other, other ≠ location → after.lookup other = before.lookup other
  links : after.links = before.links
  closed : after.closed = before.closed
  storage : after.storage = before.storage
  workingDirectory : after.workingDirectory = before.workingDirectory

theorem insert_insert (files : FileSystem) (location : Location) (first second : FileEntry) :
    (files.insert location first).insert location second = files.insert location second := by
  simp [insert, List.filter_append]

theorem rewritten_insert (files : FileSystem) {location : Location} (below : location ≠ [])
    (content : ByteString) :
    files.Rewritten (files.insert location (.file content)) location content where
  lookup_self := files.lookup_insert_self below _
  lookup_of_ne _ different := files.lookup_insert_of_ne different _
  links := rfl
  closed := rfl
  storage := rfl
  workingDirectory := rfl

/-! ## Files that are open -/

/-- What is written to an empty file is all that the file then holds. -/
theorem overwrite_nil (bytes : ByteString) : overwrite [] bytes = bytes := by
  rw [overwrite, List.drop_nil, List.append_nil]

/-- Filling an empty file leaves in it what there is room for. -/
theorem fill_of_empty {files : FileSystem} {location : Location}
    (empty : files.lookup location = some (.file [])) (bytes : ByteString) :
    files.fill location bytes =
      (if Limit.Admits (files.storageAt location).room bytes then .ok ()
        else .error (files.storageAt location).error,
        files.insert location (.file (Limit.clip (files.storageAt location).room bytes))) := by
  have taken (part : ByteString) :
      ((files.storageAt location).stream.receive part).received.toList = part := by
    simp [Storage.stream]
  simp only [fill, Stream.deliver_of_failsAtLimit (Storage.failsAtLimit_stream _),
    Storage.room_stream, empty, taken, overwrite_nil]

/-! ## Files that are opened -/

/-- The root, being a directory, cannot be written under any name. -/
theorem ne_root_of_writable {files : FileSystem} {directory location : Location}
    {name : ByteString} (found : files.writable directory name = .ok location) :
    location ≠ [] := by
  unfold writable at found
  generalize files.follow (directory ++ [name]) = place at found
  dsimp only at found
  by_cases atRoot : place = []
  · rw [atRoot, lookup_root] at found
    simp at found
  · have located : place = location := by
      split at found
      · simp at found
      · simp at found
      · exact Except.ok.inj found
      · split at found
        · simp at found
        · exact Except.ok.inj found
    exact located ▸ atRoot

/-- A path leads to what can be written under its last name. -/
theorem exists_writable_of_resolve {files : FileSystem} {path : ByteString} {location : Location}
    (resolved : files.resolve path = .ok location) :
    ∃ directory name, files.writable directory name = .ok location := by
  unfold resolve at resolved
  -- All six cases before the last one refuse the path.
  iterate 6
    split at resolved
    · simp at resolved
  exact ⟨_, _, resolved⟩

theorem ne_root_of_resolve {files : FileSystem} {path : ByteString} {location : Location}
    (resolved : files.resolve path = .ok location) : location ≠ [] := by
  obtain ⟨_, _, found⟩ := exists_writable_of_resolve resolved
  exact ne_root_of_writable found

/-- What an ordinary path opens is an emptied file where the path leads. -/
theorem create_of_ordinary {files opened : FileSystem} {path : ByteString} {target : Target}
    (ordinary : files.Ordinary path) (created : files.create path = .ok (target, opened)) :
    ∃ location, files.resolve path = .ok location ∧ target = .file location ∧
      opened = files.insert location (.file []) := by
  unfold create at created
  split at created
  · simp at created
  split at created
  · simp at created
  · rename_i location resolved
    split at created
    · rename_i device found
      exact absurd found (ordinary location device resolved)
    · obtain ⟨rfl, rfl⟩ := Prod.mk.inj (Except.ok.inj created)
      exact ⟨location, resolved, rfl, rfl⟩

end FileSystem

namespace Emission

/-- A job without a path puts its bytes on the fallback stream. -/
theorem run_of_acceptsAll (job : Job) (destinations : Destinations) (toFallback : job.output = none)
    (accepting : destinations.fallback.AcceptsAll) :
    run job destinations =
      ⟨.ok (), { destinations with fallback := destinations.fallback.receive job.bytes }⟩ := by
  unfold run
  rw [toFallback, Stream.deliver_of_eq_ok (accepting job.bytes)]
  rfl

/-- A job with an ordinary path that can be opened leaves in the file what there is
room for, and succeeds when that is everything. -/
theorem run_of_create (job : Job) (destinations : Destinations) {path : ByteString}
    {opened : Target × FileSystem} (toPath : job.output = some path)
    (ordinary : destinations.files.Ordinary path)
    (created : destinations.files.create path = .ok opened) :
    ∃ location, destinations.files.resolve path = .ok location ∧
      run job destinations =
        ⟨if Limit.Admits (destinations.files.storageAt location).room job.bytes then .ok ()
          else .error (.file path (destinations.files.storageAt location).error),
          { destinations with
            files := destinations.files.insert location
              (.file (Limit.clip (destinations.files.storageAt location).room job.bytes)) }⟩ := by
  obtain ⟨target, files⟩ := opened
  obtain ⟨location, resolved, rfl, rfl⟩ := FileSystem.create_of_ordinary ordinary created
  refine ⟨location, resolved, ?_⟩
  have empty := destinations.files.lookup_insert_self (FileSystem.ne_root_of_resolve resolved)
    (.file [])
  have sameStorage : (destinations.files.insert location (.file [])).storageAt location =
      destinations.files.storageAt location := rfl
  simp only [run, toPath, Emission.toPath, created, toTarget, FileSystem.fill_of_empty empty,
    FileSystem.insert_insert, sameStorage]
  congr 1
  split <;> rfl

/-- A job whose path cannot be opened changes nothing. -/
theorem run_of_create_error {job : Job} {destinations : Destinations} {path : ByteString}
    {error : StreamError} (toPath : job.output = some path)
    (refused : destinations.files.create path = .error error) :
    run job destinations = ⟨.error (.file path error), destinations⟩ := by
  simp only [run, toPath, Emission.toPath, refused]
  rfl

end Emission
end GraphFixture
