import GraphFixture.Text.Utf8

/-!
# Limits on bytes

A limit, if there is one, admits so many bytes and no more.  What it admits of a
byte string is its beginning, and what is left of the limit behind some bytes
decides over the bytes that follow them.
-/

namespace GraphFixture
namespace Limit

/-- All of some bytes lie within a limit, if there is one. -/
def Admits (limit : Option Nat) (bytes : ByteString) : Prop :=
  ∀ most ∈ limit, bytes.length ≤ most

instance (limit : Option Nat) (bytes : ByteString) : Decidable (Admits limit bytes) :=
  decidable_of_iff (limit.all (bytes.length ≤ ·) = true) <| by
    simp [Option.all_eq_true, Admits]

/-- The first bytes, as many as a limit admits. -/
def clip : Option Nat → ByteString → ByteString
  | none, bytes => bytes
  | some most, bytes => bytes.take most

/-- What is left of a limit behind some bytes. -/
def behind (limit : Option Nat) (bytes : ByteString) : Option Nat :=
  limit.map (· - bytes.length)

variable {limit : Option Nat}

@[simp] theorem admits_none (bytes : ByteString) : Admits none bytes := by
  simp [Admits]

@[simp] theorem admits_some {most : Nat} {bytes : ByteString} :
    Admits (some most) bytes ↔ bytes.length ≤ most := by
  simp [Admits]

@[simp] theorem clip_nil : clip limit [] = [] := by
  cases limit <;> simp [clip]

theorem clip_of_admits {bytes : ByteString} (admitted : Admits limit bytes) :
    clip limit bytes = bytes := by
  cases limit with
  | none => rfl
  | some most => exact List.take_of_length_le (admits_some.mp admitted)

/-- What is admitted of two byte strings in a row is what is admitted of the first
one and, with what is left of the limit, of the second one. -/
theorem clip_append (first second : ByteString) :
    clip limit (first ++ second) = clip limit first ++ clip (behind limit first) second := by
  cases limit with
  | none => rfl
  | some most => exact List.take_append

theorem admits_append_iff {first second : ByteString} (admitted : Admits limit first) :
    Admits limit (first ++ second) ↔ Admits (behind limit first) second := by
  cases limit with
  | none => simp [behind]
  | some most =>
      rw [admits_some] at admitted
      simp only [behind, Option.map_some, admits_some, List.length_append]
      omega

theorem Admits.of_isPrefix {first bytes : ByteString} (admitted : Admits limit bytes)
    (starts : first <+: bytes) : Admits limit first := by
  intro most isLimit
  exact Nat.le_trans starts.length_le (admitted most isLimit)

theorem Admits.of_append {first second : ByteString}
    (admitted : Admits limit (first ++ second)) : Admits limit first :=
  admitted.of_isPrefix (List.prefix_append first second)

/-- Behind bytes that exceed the limit nothing more is admitted. -/
theorem clip_append_of_not_admits {first second : ByteString}
    (exceeded : ¬ Admits limit first) : clip limit (first ++ second) = clip limit first := by
  cases limit with
  | none => exact absurd (admits_none first) exceeded
  | some most =>
      rw [admits_some, Nat.not_le] at exceeded
      exact List.take_append_of_le_length (Nat.le_of_lt exceeded)

theorem clip_isPrefix (bytes : ByteString) : clip limit bytes <+: bytes := by
  cases limit with
  | none => exact List.prefix_rfl
  | some most => exact List.take_prefix _ _

theorem admits_clip (bytes : ByteString) : Admits limit (clip limit bytes) := by
  cases limit with
  | none => exact admits_none _
  | some most =>
      rw [admits_some, clip, List.length_take]
      exact Nat.min_le_left _ _

theorem clip_ne_nil {bytes : ByteString} (nonempty : bytes ≠ []) (moving : limit ≠ some 0) :
    clip limit bytes ≠ [] := by
  cases limit with
  | none => exact nonempty
  | some most =>
      rw [clip, Ne, List.take_eq_nil_iff, not_or]
      exact ⟨fun isZero => moving (congrArg some isZero), nonempty⟩

/-- Behind bytes that were cut off nothing is left of the limit. -/
theorem behind_clip_of_not_admits {bytes : ByteString} (exceeded : ¬ Admits limit bytes) :
    behind limit (clip limit bytes) = some 0 := by
  cases limit with
  | none => exact absurd (admits_none bytes) exceeded
  | some most =>
      rw [admits_some, Nat.not_le] at exceeded
      simp [behind, clip, Nat.min_eq_left (Nat.le_of_lt exceeded)]

end Limit

end GraphFixture
