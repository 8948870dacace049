import GraphFixture.Text.Utf8

/-!
# Reading back encoded text

The bytes of a text are read as that text, whatever follows them.  Hence both
ways of decoding give back a text from its bytes, and no unit of an encoded
text is invalid.
-/

namespace GraphFixture
namespace Utf8

/-! ## Leading bytes -/

/-- A byte below `0x80` is a whole character. -/
theorem lead_ofNat_ascii :
    ∀ value < 0x80, lead (UInt8.ofNat value) = .whole (Char.ofNat value) := by
  decide

/-- The first of two bytes holds the upper five bits. -/
theorem lead_ofNat_of_two :
    ∀ value < 0x20, 2 ≤ value →
      lead (UInt8.ofNat (value + 0xC0)) = .opening ⟨value, 0, 0x80, 0xBF⟩ := by
  decide

/-- The first of three bytes holds the upper four bits. -/
theorem lead_ofNat_of_three :
    ∀ value < 0x10, lead (UInt8.ofNat (value + 0xE0)) =
      .opening ⟨value, 1, if value = 0 then 0xA0 else 0x80,
        if value = 0xD then 0x9F else 0xBF⟩ := by
  decide

/-- The first of four bytes holds the upper three bits. -/
theorem lead_ofNat_of_four :
    ∀ value < 5, lead (UInt8.ofNat (value + 0xF0)) =
      .opening ⟨value, 2, if value = 0 then 0x90 else 0x80,
        if value = 4 then 0x8F else 0xBF⟩ := by
  decide

/-! ## Continuing bytes -/

/-- A continuing byte holds six bits. -/
theorem toNat_continuing {value : Nat} (small : value < 0x40) :
    (UInt8.ofNat (value + 0x80)).toNat = value + 0x80 := by
  rw [UInt8.toNat_ofNat', Nat.mod_eq_of_lt (by omega)]

/-- A byte in the range of the next byte may come next. -/
theorem admits_continuing {bits missing value : Nat} {low high : UInt8}
    (small : value < 0x40) (above : low.toNat ≤ value + 0x80)
    (below : value + 0x80 ≤ high.toNat) :
    Unfinished.admits ⟨bits, missing, low, high⟩ (UInt8.ofNat (value + 0x80)) =
      true := by
  rw [Unfinished.admits, Bool.and_eq_true, decide_eq_true_iff, decide_eq_true_iff,
    UInt8.le_iff_toNat_le, UInt8.le_iff_toNat_le, toNat_continuing small]
  exact ⟨above, below⟩

/-- A continuing byte adds its six bits below those read so far. -/
theorem extend_continuing {bits missing value : Nat} {low high : UInt8}
    (small : value < 0x40) :
    Unfinished.extend ⟨bits, missing, low, high⟩ (UInt8.ofNat (value + 0x80)) =
      bits * 64 + value := by
  have sixBits : (value + 0x80) % 64 = value := by omega
  rw [Unfinished.extend, toNat_continuing small, sixBits]

/-- The last byte of a character completes it. -/
theorem units_last {bits value : Nat} {low high : UInt8} (small : value < 0x40)
    (above : low.toNat ≤ value + 0x80) (below : value + 0x80 ≤ high.toNat)
    (rest : ByteString) :
    units (some ⟨bits, 0, low, high⟩) (UInt8.ofNat (value + 0x80) :: rest) =
      some (Char.ofNat (bits * 64 + value)) :: units none rest := by
  rw [units, if_pos (admits_continuing small above below),
    extend_continuing small]

/-- A byte in the middle of a character adds six bits. -/
theorem units_middle {bits missing value : Nat} {low high : UInt8}
    (small : value < 0x40) (above : low.toNat ≤ value + 0x80)
    (below : value + 0x80 ≤ high.toNat) (rest : ByteString) :
    units (some ⟨bits, missing + 1, low, high⟩)
        (UInt8.ofNat (value + 0x80) :: rest) =
      units (some ⟨bits * 64 + value, missing, 0x80, 0xBF⟩) rest := by
  rw [units, if_pos (admits_continuing small above below),
    extend_continuing small]

/-! ## Characters and texts -/

/-- The bytes of a character are read as that character, whatever follows. -/
theorem units_utf8EncodeChar (character : Char) (rest : ByteString) :
    units none (String.utf8EncodeChar character ++ rest) =
      some character :: units none rest := by
  obtain ⟨value, valueEq⟩ : ∃ value, character.toNat = value := ⟨_, rfl⟩
  have valid : value < 0xD800 ∨ 0xDFFF < value ∧ value < 0x110000 :=
    valueEq ▸ character.valid
  have back : Char.ofNat value = character :=
    valueEq ▸ character.ofNat_toNat
  have valEq : character.val.toNat = value := valueEq
  unfold String.utf8EncodeChar
  simp only [valEq]
  split
  · rw [List.singleton_append, units, lead_ofNat_ascii value (by omega), back]
  · split
    · rw [List.cons_append, List.singleton_append, units,
        Nat.mod_eq_of_lt (by omega : value / 64 < 32),
        lead_ofNat_of_two _ (by omega) (by omega)]
      simp only
      rw [units_last (by omega) (by simp) (by simp; omega), ← back]
      congr 3
      omega
    · split
      · rw [List.cons_append, List.cons_append, List.singleton_append, units,
          Nat.mod_eq_of_lt (by omega : value / 4096 < 16),
          lead_ofNat_of_three _ (by omega)]
        simp only
        rw [units_middle (by omega) (by split <;> simp; omega)
            (by split <;> simp <;> omega),
          units_last (by omega) (by simp) (by simp; omega), ← back]
        congr 3
        omega
      · rw [List.cons_append, List.cons_append, List.cons_append,
          List.singleton_append, units,
          Nat.mod_eq_of_lt (by omega : value / 262144 < 8),
          lead_ofNat_of_four _ (by omega)]
        simp only
        rw [units_middle (by omega) (by split <;> simp; omega)
            (by split <;> simp <;> omega),
          units_middle (by omega) (by simp) (by simp; omega),
          units_last (by omega) (by simp) (by simp; omega), ← back]
        congr 3
        omega

/-- The bytes of a text are read as that text, whatever follows. -/
theorem units_encode (text : List Char) (rest : ByteString) :
    units none (encode text ++ rest) = text.map some ++ units none rest := by
  induction text with
  | nil => rfl
  | cons character text inductionHypothesis =>
      rw [encode_cons, List.append_assoc, units_utf8EncodeChar, inductionHypothesis]
      rfl

@[simp] theorem decodeLossy_encode (text : List Char) :
    decodeLossy (encode text) = text := by
  have read := units_encode text []
  rw [List.append_nil] at read
  simp [decodeLossy, read, units, Function.comp_def]

@[simp] theorem decode?_encode (text : List Char) :
    decode? (encode text) = some text := by
  have read := units_encode text []
  rw [List.append_nil] at read
  rw [decode?, read, units, List.append_nil]
  clear read
  induction text with
  | nil => rfl
  | cons character text inductionHypothesis =>
      simp [inductionHypothesis]

end Utf8
end GraphFixture
