import GraphFixture.Text.Utf8.RoundTrip

/-!
# The bytes of one character

The first byte of a character of several bytes says how many are to follow and in
which range the next one must lie.  Bytes that open a character can always be
completed, and a byte that completes it gives the encoding of the character that
is read.  A byte that continues a character begins none.
-/

namespace GraphFixture
namespace Utf8

/-! ## First bytes -/

theorem lead_ofNat_continuing :
    ∀ value < 0x42, lead (UInt8.ofNat (value + 0x80)) = .invalid := by
  decide

theorem lead_ofNat_beyond :
    ∀ value < 0xB, lead (UInt8.ofNat (value + 0xF5)) = .invalid := by
  decide

/-- What the first byte of a longer character says. -/
inductive Opening : UInt8 → Unfinished → Prop
  | two {value : Nat} (least : 2 ≤ value) (small : value < 0x20) :
      Opening (UInt8.ofNat (value + 0xC0)) ⟨value, 0, 0x80, 0xBF⟩
  | three {value : Nat} (small : value < 0x10) :
      Opening (UInt8.ofNat (value + 0xE0)) ⟨value, 1, if value = 0 then 0xA0 else 0x80,
        if value = 0xD then 0x9F else 0xBF⟩
  | four {value : Nat} (small : value < 5) :
      Opening (UInt8.ofNat (value + 0xF0)) ⟨value, 2, if value = 0 then 0x90 else 0x80,
        if value = 4 then 0x8F else 0xBF⟩

theorem opening_of_lead {byte : UInt8} {unfinished : Unfinished}
    (opening : lead byte = .opening unfinished) : Opening byte unfinished := by
  obtain ⟨value, value_eq⟩ : ∃ value, byte.toNat = value := ⟨_, rfl⟩
  have byte_eq : byte = UInt8.ofNat value := by rw [← value_eq, UInt8.ofNat_toNat]
  have small : value < 0x100 := value_eq ▸ byte.toNat_lt
  rw [byte_eq] at opening ⊢
  have shifted (base : Nat) (above : base ≤ value) : value = (value - base) + base := by omega
  rcases Nat.lt_or_ge value 0x80 with ascii | continuing
  · rw [lead_ofNat_ascii value ascii] at opening
    exact nomatch opening
  rcases Nat.lt_or_ge value 0xC2 with below | two
  · rw [shifted 0x80 continuing, lead_ofNat_continuing _ (by omega)] at opening
    exact nomatch opening
  rcases Nat.lt_or_ge value 0xE0 with below | three
  · rw [shifted 0xC0 (by omega), lead_ofNat_of_two _ (by omega) (by omega)] at opening
    rw [shifted 0xC0 (by omega), ← Lead.opening.inj opening]
    exact .two (by omega) (by omega)
  rcases Nat.lt_or_ge value 0xF0 with below | four
  · rw [shifted 0xE0 three, lead_ofNat_of_three _ (by omega)] at opening
    rw [shifted 0xE0 three, ← Lead.opening.inj opening]
    exact .three (by omega)
  rcases Nat.lt_or_ge value 0xF5 with below | beyond
  · rw [shifted 0xF0 four, lead_ofNat_of_four _ (by omega)] at opening
    rw [shifted 0xF0 four, ← Lead.opening.inj opening]
    exact .four (by omega)
  · rw [shifted 0xF5 beyond, lead_ofNat_beyond _ (by omega)] at opening
    exact nomatch opening

/-! ## Open characters -/

/-- Some bytes open a character that they leave unfinished. -/
inductive Opens : ByteString → Unfinished → Prop
  | first {byte : UInt8} {unfinished : Unfinished} (opening : lead byte = .opening unfinished) :
      Opens [byte] unfinished
  | next {opened : ByteString} {bits missing : Nat} {low high byte : UInt8}
      (opens : Opens opened ⟨bits, missing + 1, low, high⟩)
      (admitted : Unfinished.admits ⟨bits, missing + 1, low, high⟩ byte = true) :
      Opens (opened ++ [byte])
        ⟨Unfinished.extend ⟨bits, missing + 1, low, high⟩ byte, missing, 0x80, 0xBF⟩

namespace Opens

variable {opened : ByteString} {unfinished : Unfinished}

theorem ne_nil (opens : Opens opened unfinished) : opened ≠ [] := by
  cases opens <;> simp

/-- No character has more than four bytes. -/
theorem length_add_missing_lt (opens : Opens opened unfinished) :
    opened.length + unfinished.missing < 4 := by
  induction opens with
  | first opening => cases opening_of_lead opening <;> simp
  | next opens admitted inductionHypothesis =>
      rw [List.length_append, List.length_singleton]
      dsimp only at inductionHypothesis ⊢
      omega

theorem bounds (opens : Opens opened unfinished) :
    0x80 ≤ unfinished.low.toNat ∧ unfinished.low.toNat ≤ unfinished.high.toNat ∧
      unfinished.high.toNat ≤ 0xBF := by
  cases opens with
  | first opening =>
      cases opening_of_lead opening with
      | two => simp
      | three => dsimp only; split <;> split <;> first | decide | omega
      | four => dsimp only; split <;> split <;> first | decide | omega
  | next => simp

/-- A byte that may come next brings six bits, within the bounds of the next byte. -/
theorem exists_of_admits (opens : Opens opened unfinished) {byte : UInt8}
    (admitted : unfinished.admits byte = true) :
    ∃ value < 0x40, byte = UInt8.ofNat (value + 0x80) ∧
      unfinished.extend byte = unfinished.bits * 64 + value ∧
      unfinished.low.toNat ≤ value + 0x80 ∧ value + 0x80 ≤ unfinished.high.toNat := by
  obtain ⟨least, _, most⟩ := opens.bounds
  simp only [Unfinished.admits, Bool.and_eq_true, decide_eq_true_iff,
    UInt8.le_iff_toNat_le] at admitted
  obtain ⟨value, value_eq⟩ : ∃ value, byte.toNat = value + 0x80 :=
    ⟨byte.toNat - 0x80, by omega⟩
  have small : value < 0x40 := by omega
  have byte_eq : byte = UInt8.ofNat (value + 0x80) := by rw [← value_eq, UInt8.ofNat_toNat]
  refine ⟨value, small, byte_eq, ?_, by omega, by omega⟩
  rw [byte_eq, extend_continuing small]

/-- A byte that may come next begins no character. -/
theorem lead_of_admits (opens : Opens opened unfinished) {byte : UInt8}
    (admitted : unfinished.admits byte = true) : lead byte = .invalid := by
  obtain ⟨value, small, rfl, _⟩ := opens.exists_of_admits admitted
  exact lead_ofNat_continuing value (by omega)

end Opens

/-! ## Encodings -/

/-- Some bytes are the first ones of a character. -/
def BeginsCharacter (bytes : ByteString) : Prop :=
  ∃ character, bytes <+: String.utf8EncodeChar character

theorem BeginsCharacter.of_isPrefix {shorter longer : ByteString} (isPrefix : shorter <+: longer)
    (begins : BeginsCharacter longer) : BeginsCharacter shorter :=
  begins.imp fun _ => isPrefix.trans

theorem toNat_ofNat_of_valid {value : Nat} (valid : value.isValidChar) :
    (Char.ofNat value).val.toNat = value := by
  rw [Char.ofNat, dif_pos valid]
  rfl

theorem utf8EncodeChar_of_two {first second : Nat} (least : 2 ≤ first) (small : first < 0x20)
    (smallSecond : second < 0x40) :
    String.utf8EncodeChar (Char.ofNat (first * 64 + second)) =
      [UInt8.ofNat (first + 0xC0), UInt8.ofNat (second + 0x80)] := by
  obtain ⟨value, value_eq⟩ : ∃ value, first * 64 + second = value := ⟨_, rfl⟩
  have valid : value.isValidChar := by
    unfold Nat.isValidChar
    omega
  have firstBits : value / 64 % 32 = first := by omega
  have secondBits : value % 64 = second := by omega
  simp only [value_eq, String.utf8EncodeChar, toNat_ofNat_of_valid valid]
  rw [if_neg (by omega), if_pos (by omega), firstBits, secondBits]

theorem utf8EncodeChar_of_three {first second third : Nat} (small : first < 0x10)
    (smallSecond : second < 0x40) (smallThird : third < 0x40)
    (least : first = 0 → 0x20 ≤ second) (noSurrogate : first = 0xD → second < 0x20) :
    String.utf8EncodeChar (Char.ofNat ((first * 64 + second) * 64 + third)) =
      [UInt8.ofNat (first + 0xE0), UInt8.ofNat (second + 0x80), UInt8.ofNat (third + 0x80)] := by
  obtain ⟨value, value_eq⟩ : ∃ value, (first * 64 + second) * 64 + third = value := ⟨_, rfl⟩
  have valid : value.isValidChar := by
    unfold Nat.isValidChar
    omega
  have firstBits : value / 4096 % 16 = first := by omega
  have secondBits : value / 64 % 64 = second := by omega
  have thirdBits : value % 64 = third := by omega
  simp only [value_eq, String.utf8EncodeChar, toNat_ofNat_of_valid valid]
  rw [if_neg (by omega), if_neg (by omega), if_pos (by omega), firstBits, secondBits, thirdBits]

theorem utf8EncodeChar_of_four {first second third fourth : Nat} (small : first < 5)
    (smallSecond : second < 0x40) (smallThird : third < 0x40) (smallFourth : fourth < 0x40)
    (least : first = 0 → 0x10 ≤ second) (most : first = 4 → second < 0x10) :
    String.utf8EncodeChar (Char.ofNat (((first * 64 + second) * 64 + third) * 64 + fourth)) =
      [UInt8.ofNat (first + 0xF0), UInt8.ofNat (second + 0x80), UInt8.ofNat (third + 0x80),
        UInt8.ofNat (fourth + 0x80)] := by
  obtain ⟨value, value_eq⟩ : ∃ value, ((first * 64 + second) * 64 + third) * 64 + fourth = value :=
    ⟨_, rfl⟩
  have valid : value.isValidChar := by
    unfold Nat.isValidChar
    omega
  have firstBits : value / 262144 % 8 = first := by omega
  have secondBits : value / 4096 % 64 = second := by omega
  have thirdBits : value / 64 % 64 = third := by omega
  have fourthBits : value % 64 = fourth := by omega
  simp only [value_eq, String.utf8EncodeChar, toNat_ofNat_of_valid valid]
  rw [if_neg (by omega), if_neg (by omega), if_neg (by omega), firstBits, secondBits, thirdBits,
    fourthBits]

namespace Opens

variable {opened : ByteString} {bits missing : Nat} {low high byte : UInt8}

/-- The last byte of a character completes the encoding of the character. -/
theorem utf8EncodeChar_extend (opens : Opens opened ⟨bits, 0, low, high⟩)
    (admitted : Unfinished.admits ⟨bits, 0, low, high⟩ byte = true) :
    String.utf8EncodeChar (Char.ofNat (Unfinished.extend ⟨bits, 0, low, high⟩ byte)) =
      opened ++ [byte] := by
  -- The bytes are taken off from the last one to the first, which tells how many there are.
  obtain ⟨last, smallLast, rfl, extended, _, _⟩ := opens.exists_of_admits admitted
  rw [extended]
  cases opens with
  | first opening =>
      cases opening_of_lead opening with
      | two least small => exact utf8EncodeChar_of_two least small smallLast
  | next opens admittedThird =>
      obtain ⟨third, smallThird, rfl, extendedThird, aboveThird, belowThird⟩ :=
        opens.exists_of_admits admittedThird
      rw [extendedThird]
      cases opens with
      | first opening =>
          cases opening_of_lead opening with
          | three small =>
              refine utf8EncodeChar_of_three small smallThird smallLast ?_ ?_
              · intro isZero
                simp only [if_pos isZero] at aboveThird
                change 0xA0 ≤ third + 0x80 at aboveThird
                omega
              · intro isLast
                simp only [if_pos isLast] at belowThird
                change third + 0x80 ≤ 0x9F at belowThird
                omega
      | next opens admittedSecond =>
          obtain ⟨second, smallSecond, rfl, extendedSecond, aboveSecond, belowSecond⟩ :=
            opens.exists_of_admits admittedSecond
          rw [extendedSecond]
          cases opens with
          | first opening =>
              cases opening_of_lead opening with
              | four small =>
                  refine utf8EncodeChar_of_four small smallSecond smallThird smallLast ?_ ?_
                  · intro isZero
                    simp only [if_pos isZero] at aboveSecond
                    change 0x90 ≤ second + 0x80 at aboveSecond
                    omega
                  · intro isLast
                    simp only [if_pos isLast] at belowSecond
                    change second + 0x80 ≤ 0x8F at belowSecond
                    omega
          | next opens _ =>
              have short := opens.length_add_missing_lt
              have positive := List.length_pos_iff.mpr opens.ne_nil
              dsimp only at short
              omega

/-- An open character can be completed, for instance by the least bytes that may follow. -/
theorem beginsCharacter {unfinished : Unfinished} (opens : Opens opened unfinished) :
    BeginsCharacter opened := by
  obtain ⟨bits, missing, low, high⟩ := unfinished
  have admitted : Unfinished.admits ⟨bits, missing, low, high⟩ low = true := by
    simp [Unfinished.admits, UInt8.le_iff_toNat_le, opens.bounds.2.1]
  induction missing generalizing opened bits low high with
  | zero => exact ⟨_, [low], (opens.utf8EncodeChar_extend admitted).symm⟩
  | succ missing inductionHypothesis =>
      exact (inductionHypothesis _ _ _ (opens.next admitted) (by rfl)).of_isPrefix
        (List.prefix_append opened [low])

end Opens

theorem utf8EncodeChar_of_lead {byte : UInt8} {character : Char}
    (whole : lead byte = .whole character) : String.utf8EncodeChar character = [byte] := by
  unfold lead at whole
  split at whole
  · rename_i small
    have value_small : byte.toNat < 0x80 := UInt8.lt_iff_toNat_lt.mp small
    have valid : byte.toNat.isValidChar := by
      unfold Nat.isValidChar
      omega
    rw [← Lead.whole.inj whole]
    simp only [String.utf8EncodeChar, toNat_ofNat_of_valid valid]
    rw [if_pos (by omega), UInt8.ofNat_toNat]
  · repeat' split at whole
    all_goals cases whole

theorem exists_utf8EncodeChar_eq_cons (character : Char) :
    ∃ byte later, String.utf8EncodeChar character = byte :: later ∧ lead byte ≠ .invalid := by
  have found := units_utf8EncodeChar character []
  cases whole : String.utf8EncodeChar character with
  | nil =>
      rw [whole] at found
      exact nomatch found
  | cons byte later =>
      refine ⟨byte, later, rfl, fun invalid => ?_⟩
      simp [whole, units, invalid] at found

end Utf8
end GraphFixture
