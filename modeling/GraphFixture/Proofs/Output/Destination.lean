import GraphFixture.Proofs.Output.Delivery

/-!
# An emission has one destination

A job without a path leaves its text on the fallback stream and touches nothing
else.  A job with a path leaves it in the file that the path leads to and touches
nothing else either, unless the file cannot be created and nothing is touched at
all.  The stream or the file holds the whole text if there was room for it;
otherwise it holds the first bytes, and the emission reports why there was no
room for more.
-/

namespace GraphFixture
namespace Emission

open Limit

/-- What is left behind by a job that writes to the file a path leads to. -/
structure InFile (job : Job) (path : ByteString) (before : Destinations)
    (emission : Emission) : Prop where
  /-- The streams are left alone. -/
  elsewhere : emission.destinations = { before with files := emission.destinations.files }
  succeeded_iff : emission.result = .ok () ↔
    (∃ opened, before.files.create path = .ok opened) ∧ before.files.HasRoom path job.bytes
  /-- The file holds the text alone, whatever it held before. -/
  whole : emission.result = .ok () →
    ∃ location, before.files.resolve path = .ok location ∧
      before.files.Rewritten emission.destinations.files location job.bytes
  /-- The first bytes are there alone, as many as there was room for. -/
  cut : ∀ opened, before.files.create path = .ok opened → emission.result ≠ .ok () →
    ∃ location, before.files.resolve path = .ok location ∧
      emission.result = .error (.file path (before.files.storageAt location).error) ∧
      before.files.Rewritten emission.destinations.files location
        (clip (before.files.storageAt location).room job.bytes)
  refused : ∀ cause, before.files.create path = .error cause →
    emission.result = .error (.file path cause) ∧ emission.destinations = before

theorem inFile_run {job : Job} {before : Destinations} {path : ByteString}
    (toPath : job.output = some path) (ordinary : before.files.Ordinary path) :
    InFile job path before (run job before) := by
  cases created : before.files.create path with
  | ok opened =>
      obtain ⟨location, resolved, emitted⟩ := run_of_create job before toPath ordinary created
      have below := FileSystem.ne_root_of_resolve resolved
      have hasRoom_iff : before.files.HasRoom path job.bytes ↔
          Admits (before.files.storageAt location).room job.bytes := by
        simp [FileSystem.HasRoom, resolved]
      have notRefused (cause : StreamError) : before.files.create path ≠ .error cause :=
        fun refused => nomatch created.symm.trans refused
      rw [emitted]
      by_cases admitted : Admits (before.files.storageAt location).room job.bytes
      · simp only [if_pos admitted, clip_of_admits admitted]
        exact {
          elsewhere := rfl
          succeeded_iff := iff_of_true rfl ⟨⟨opened, created⟩, hasRoom_iff.mpr admitted⟩
          whole := fun _ => ⟨location, resolved, before.files.rewritten_insert below _⟩
          cut := fun _ _ failed => absurd rfl failed
          refused := fun cause refused => absurd refused (notRefused cause) }
      · simp only [if_neg admitted]
        exact {
          elsewhere := rfl
          succeeded_iff := iff_of_false nofun fun both => admitted (hasRoom_iff.mp both.2)
          whole := nofun
          cut := fun _ _ _ => ⟨location, resolved, rfl, before.files.rewritten_insert below _⟩
          refused := fun cause refused => absurd refused (notRefused cause) }
  | error cause =>
      rw [run_of_create_error toPath created]
      constructor <;> simp [created]

end Emission
end GraphFixture
