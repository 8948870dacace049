import GraphFixture.Text.Decimal
import GraphFixture.Text.Numeral

/-!
# What numerals denote

A numeral is one plus sign or none and then one or more decimal digits.  Reading
a byte string succeeds exactly when it is a numeral whose value fits into a
word, and gives that value.  What is wrong with any other byte string depends on
the digits that it starts with.
-/

namespace GraphFixture
namespace Numeral

/-- The byte of the sign that a numeral may start with. -/
def plusSign : UInt8 :=
  0x2B

/-- A byte is a decimal digit. -/
def IsDigit (byte : UInt8) : Prop :=
  0x30 ≤ byte ∧ byte ≤ 0x39

/-- The value of some digits behind others whose value is known. -/
def valueFrom (start : Nat) (digits : ByteString) : Nat :=
  digits.foldl (fun value byte => value * 10 + (byte.toNat - 0x30)) start

/-- A byte string is a numeral for a number. -/
def Denotes (numeral : ByteString) (number : UInt64) : Prop :=
  ∃ digits, (numeral = digits ∨ numeral = plusSign :: digits) ∧ digits ≠ [] ∧
    (∀ byte ∈ digits, IsDigit byte) ∧ valueFrom 0 digits = number.toNat

theorem le_valueFrom (start : Nat) (digits : ByteString) : start ≤ valueFrom start digits := by
  induction digits generalizing start with
  | nil => exact Nat.le_refl start
  | cons byte digits inductionHypothesis =>
      have later := inductionHypothesis (start * 10 + (byte.toNat - 0x30))
      change start ≤ valueFrom (start * 10 + (byte.toNat - 0x30)) digits
      omega

theorem readFrom_eq_ok_iff {start : Nat} (small : start < UInt64.size) (digits : ByteString)
    (number : UInt64) :
    readFrom start digits = .ok number ↔
      (∀ byte ∈ digits, IsDigit byte) ∧ valueFrom start digits = number.toNat := by
  induction digits generalizing start with
  | nil =>
      rw [readFrom, Except.ok.injEq, ← UInt64.toNat_inj, UInt64.toNat_ofNat_of_lt' small]
      simp [valueFrom]
  | cons byte digits inductionHypothesis =>
      rw [readFrom, List.forall_mem_cons]
      by_cases isDigit : 0x30 ≤ byte ∧ byte ≤ 0x39
      · rw [digit?, if_pos isDigit]
        dsimp only
        split
        · rename_i smallLater
          rw [inductionHypothesis smallLater]
          exact ⟨fun later => ⟨⟨isDigit, later.1⟩, later.2⟩, fun all => ⟨all.1.2, all.2⟩⟩
        · rename_i tooLarge
          have least := le_valueFrom (start * 10 + (byte.toNat - 0x30)) digits
          have fits := number.toNat_lt
          constructor
          · intro impossible
            exact nomatch impossible
          · rintro ⟨_, value_eq⟩
            change valueFrom (start * 10 + (byte.toNat - 0x30)) digits = _ at value_eq
            rw [UInt64.size] at tooLarge
            omega
      · rw [digit?, if_neg isDigit]
        constructor
        · intro impossible
          exact nomatch impossible
        · intro all
          exact absurd all.1.1 isDigit

theorem unsigned_of_ne {first : UInt8} (unsignedFirst : first ≠ plusSign) (rest : ByteString) :
    unsigned (first :: rest) = first :: rest := by
  unfold unsigned
  split
  · rename_i equal
    exact absurd (List.cons.inj equal).1 unsignedFirst
  · rfl

theorem not_isDigit_plusSign : ¬ IsDigit plusSign := by
  unfold IsDigit
  decide

/-- Reading gives the number that a numeral denotes, and nothing else is read. -/
theorem read_eq_ok_iff (bytes : ByteString) (number : UInt64) :
    read bytes = .ok number ↔ Denotes bytes number := by
  have small : 0 < UInt64.size := by decide
  unfold Denotes
  cases bytes with
  | nil => simp [read]
  | cons first rest =>
      by_cases signed : first = plusSign
      · subst signed
        cases rest with
        | nil =>
            constructor
            · intro impossible
              exact nomatch impossible
            · rintro ⟨digits, rfl | equal, nonempty, allDigits, _⟩
              · exact absurd (allDigits plusSign List.mem_cons_self) not_isDigit_plusSign
              · exact absurd (List.cons.inj equal).2.symm nonempty
        | cons second others =>
            change readFrom 0 (second :: others) = .ok number ↔ _
            rw [readFrom_eq_ok_iff small]
            constructor
            · intro reading
              exact ⟨_, .inr rfl, List.cons_ne_nil _ _, reading⟩
            · rintro ⟨digits, rfl | equal, _, allDigits, value_eq⟩
              · exact absurd (allDigits plusSign List.mem_cons_self) not_isDigit_plusSign
              · rw [(List.cons.inj equal).2]
                exact ⟨allDigits, value_eq⟩
      · have digitsAlone : read (first :: rest) = readFrom 0 (first :: rest) := by
          rw [read, if_neg (List.cons_ne_nil _ _), unsigned_of_ne signed]
        rw [digitsAlone, readFrom_eq_ok_iff small]
        constructor
        · intro reading
          exact ⟨_, .inl rfl, List.cons_ne_nil _ _, reading⟩
        · rintro ⟨digits, rfl | equal, _, reading⟩
          · exact reading
          · exact absurd (List.cons.inj equal).1 signed

/-- A numeral holds bytes of the first half only, so it is text. -/
theorem Denotes.exists_decode? {numeral : ByteString} {number : UInt64}
    (denotes : Denotes numeral number) : ∃ text, Utf8.decode? numeral = some text := by
  obtain ⟨digits, shape, _, allDigits, _⟩ := denotes
  have ascii : ∀ byte ∈ numeral, byte < 0x80 := by
    have ofDigit {byte : UInt8} (isDigit : IsDigit byte) : byte < 0x80 :=
      UInt8.lt_of_le_of_lt isDigit.2 (by decide)
    rcases shape with rfl | rfl
    · exact fun byte member => ofDigit (allDigits byte member)
    · rw [List.forall_mem_cons]
      exact ⟨by decide, fun byte member => ofDigit (allDigits byte member)⟩
  clear shape
  induction numeral with
  | nil => exact ⟨[], rfl⟩
  | cons byte rest inductionHypothesis =>
      rw [List.forall_mem_cons] at ascii
      obtain ⟨text, decoded⟩ := inductionHypothesis ascii.2
      refine ⟨Char.ofNat byte.toNat :: text, ?_⟩
      rw [Utf8.decode?, Utf8.units, Utf8.lead, if_pos ascii.1]
      rw [Utf8.decode?] at decoded
      simp [decoded]

/-! ## Faults -/

instance : DecidablePred IsDigit := fun byte =>
  inferInstanceAs (Decidable (0x30 ≤ byte ∧ byte ≤ 0x39))

/-- The digits that a byte string starts with. -/
def leadingDigits (bytes : ByteString) : ByteString :=
  bytes.takeWhile fun byte => decide (IsDigit byte)

theorem leadingDigits_cons_of_isDigit {byte : UInt8} (isDigit : IsDigit byte)
    (rest : ByteString) : leadingDigits (byte :: rest) = byte :: leadingDigits rest :=
  List.takeWhile_cons_of_pos (decide_eq_true isDigit)

theorem leadingDigits_cons_of_not_isDigit {byte : UInt8} (noDigit : ¬ IsDigit byte)
    (rest : ByteString) : leadingDigits (byte :: rest) = [] :=
  List.takeWhile_cons_of_neg (by simpa using noDigit)

theorem digit?_of_isDigit {byte : UInt8} (isDigit : IsDigit byte) :
    digit? byte = some (byte.toNat - 0x30) :=
  if_pos isDigit

theorem digit?_of_not_isDigit {byte : UInt8} (noDigit : ¬ IsDigit byte) : digit? byte = none :=
  if_neg noDigit

/-- Reading stops where the value of the digits gets too large, or else at the first
byte that is no digit. -/
theorem readFrom_eq {start : Nat} (small : start < UInt64.size) (bytes : ByteString) :
    readFrom start bytes =
      if UInt64.size ≤ valueFrom start (leadingDigits bytes) then .error .tooLarge
      else if leadingDigits bytes = bytes then .ok (UInt64.ofNat (valueFrom start bytes))
      else .error .invalidDigit := by
  induction bytes generalizing start with
  | nil =>
      have nothing : valueFrom start (leadingDigits []) = start := rfl
      rw [nothing, if_neg (Nat.not_le_of_lt small)]
      rfl
  | cons byte rest inductionHypothesis =>
      rw [readFrom]
      by_cases isDigit : IsDigit byte
      · have valueFrom_cons (digits : ByteString) : valueFrom start (byte :: digits) =
            valueFrom (start * 10 + (byte.toNat - 0x30)) digits := rfl
        have least := le_valueFrom (start * 10 + (byte.toNat - 0x30)) (leadingDigits rest)
        simp only [digit?_of_isDigit isDigit, leadingDigits_cons_of_isDigit isDigit,
          valueFrom_cons, List.cons_inj_right]
        split
        · rename_i smallLater
          exact inductionHypothesis smallLater
        · rw [if_pos (by omega)]
      · have nothing : valueFrom start [] = start := rfl
        rw [digit?_of_not_isDigit isDigit, leadingDigits_cons_of_not_isDigit isDigit, nothing,
          if_neg (Nat.not_le_of_lt small), if_neg (List.cons_ne_nil _ _).symm]

/-- What reading comes to depends on the digits behind the sign: on their value, and
on whether there is at least one and nothing else. -/
theorem read_eq {bytes : ByteString} (nonempty : bytes ≠ []) :
    read bytes =
      if UInt64.size ≤ valueFrom 0 (leadingDigits (unsigned bytes)) then .error .tooLarge
      else if unsigned bytes ≠ [] ∧ leadingDigits (unsigned bytes) = unsigned bytes then
        .ok (UInt64.ofNat (valueFrom 0 (unsigned bytes)))
      else .error .invalidDigit := by
  rw [read, if_neg nonempty]
  cases digits : unsigned bytes with
  | nil => rfl
  | cons first rest =>
      dsimp only
      rw [readFrom_eq (by decide)]
      simp

/-- A numeral is digits alone behind its sign. -/
theorem denotes_iff (bytes : ByteString) (number : UInt64) :
    Denotes bytes number ↔ unsigned bytes ≠ [] ∧
      leadingDigits (unsigned bytes) = unsigned bytes ∧
      valueFrom 0 (leadingDigits (unsigned bytes)) = number.toNat := by
  rw [← read_eq_ok_iff]
  by_cases empty : bytes = []
  · subst empty
    simp [read, unsigned]
  · have fits : number.toNat < UInt64.size := number.toNat_lt
    rw [read_eq empty]
    split
    · rename_i tooLarge
      simp only [reduceCtorEq, false_iff]
      omega
    · rename_i small
      split
      · rename_i digits
        rw [Except.ok.injEq, ← UInt64.toNat_inj, digits.2,
          UInt64.toNat_ofNat_of_lt' (by rw [← digits.2]; omega)]
        exact ⟨fun same => ⟨digits.1, rfl, same⟩, fun all => all.2.2⟩
      · rename_i noDigits
        simp only [reduceCtorEq, false_iff]
        exact fun all => noDigits ⟨all.1, all.2.1⟩

theorem read_of_tooLarge {bytes : ByteString}
    (tooLarge : UInt64.size ≤ valueFrom 0 (leadingDigits (unsigned bytes))) :
    read bytes = .error .tooLarge := by
  have nonempty : bytes ≠ [] := by
    rintro rfl
    exact absurd tooLarge (by decide)
  rw [read_eq nonempty, if_pos tooLarge]

theorem read_of_invalidDigit {bytes : ByteString} (nonempty : bytes ≠ [])
    (small : valueFrom 0 (leadingDigits (unsigned bytes)) < UInt64.size)
    (noDigits : ¬ (unsigned bytes ≠ [] ∧ leadingDigits (unsigned bytes) = unsigned bytes)) :
    read bytes = .error .invalidDigit := by
  rw [read_eq nonempty, if_neg (Nat.not_le_of_lt small), if_neg noDigits]

end Numeral

/-! ## Digits of numbers -/

namespace Decimal

/-- The byte of a digit. -/
def byte (character : Char) : UInt8 :=
  UInt8.ofNat character.toNat

theorem toNat_byte {character : Char} (isDigit : character.isDigit = true) :
    (byte character).toNat = character.toNat ∧ 48 ≤ character.toNat ∧ character.toNat ≤ 57 := by
  have bounds : 48 ≤ character.toNat ∧ character.toNat ≤ 57 := by
    simpa [Char.isDigit, UInt32.le_iff_toNat_le] using isDigit
  refine ⟨?_, bounds⟩
  rw [byte, UInt8.toNat_ofNat']
  omega

theorem utf8EncodeChar_of_isDigit {character : Char} (isDigit : character.isDigit = true) :
    String.utf8EncodeChar character = [byte character] := by
  have bounds := toNat_byte isDigit
  have small : character.val.toNat ≤ 0x7F := Nat.le_trans bounds.2.2 (by decide)
  simp only [String.utf8EncodeChar, small, if_true]
  rfl

theorem encode_of_isDigit {text : List Char}
    (allDigits : ∀ character ∈ text, character.isDigit = true) :
    Utf8.encode text = text.map byte := by
  induction text with
  | nil => rfl
  | cons character text inductionHypothesis =>
      rw [List.forall_mem_cons] at allDigits
      rw [Utf8.encode_cons, utf8EncodeChar_of_isDigit allDigits.1,
        inductionHypothesis allDigits.2]
      rfl

theorem valueFrom_map_byte {text : List Char} (start : Nat)
    (allDigits : ∀ character ∈ text, character.isDigit = true) :
    Numeral.valueFrom start (text.map byte) = Nat.ofDigitChars 10 text start := by
  induction text generalizing start with
  | nil => rfl
  | cons character text inductionHypothesis =>
      rw [List.forall_mem_cons] at allDigits
      have later := inductionHypothesis (start * 10 + ((byte character).toNat - 0x30)) allDigits.2
      rw [(toNat_byte allDigits.1).1] at later
      rw [List.map_cons, Nat.ofDigitChars_cons, Nat.mul_comm 10]
      change Numeral.valueFrom (start * 10 + ((byte character).toNat - 0x30)) (text.map byte) = _
      rw [(toNat_byte allDigits.1).1]
      exact later

/-- The bytes of the digits of a number denote the number. -/
theorem denotes_encode_digits (number : UInt64) :
    Numeral.Denotes (Utf8.encode (digits number.toNat)) number := by
  have allDigits : ∀ character ∈ digits number.toNat, character.isDigit = true :=
    fun _ => isDigit_of_mem_digits
  rw [encode_of_isDigit allDigits]
  refine ⟨_, .inl rfl, by simpa using digits_ne_nil number.toNat, ?_, ?_⟩
  · intro found member
    obtain ⟨character, inDigits, rfl⟩ := List.mem_map.mp member
    have bounds := toNat_byte (allDigits character inDigits)
    rw [Numeral.IsDigit, UInt8.le_iff_toNat_le, UInt8.le_iff_toNat_le, bounds.1]
    exact bounds.2
  · rw [valueFrom_map_byte 0 allDigits]
    exact value_digits number.toNat

end Decimal

end GraphFixture
