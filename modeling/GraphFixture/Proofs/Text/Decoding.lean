import GraphFixture.Proofs.Text.Characters

/-!
# What decoding finds in a byte string

A byte string is text when it is the encoding of some characters, and decoding
then gives those back.  In any other byte string there are invalid parts: each
is the longest run of bytes that could begin a character where no character is,
or one byte if none could.  Decoding puts one replacement for every such part.
Bytes that open a character and what may follow them decide which of the two is
found next, and text around a byte string is decoded apart from it.
-/

namespace GraphFixture
namespace Utf8

/-! ## Invalid parts -/

/-- A part of a byte string that is replaced as a whole, with the rest behind it. -/
structure IsInvalidPart (part rest : ByteString) : Prop where
  nonempty : part ≠ []
  /-- No character stands where the part does. -/
  noCharacter : ∀ character, ¬ String.utf8EncodeChar character <+: part ++ rest
  /-- A part of several bytes could begin a character. -/
  begins : 1 < part.length → BeginsCharacter part
  /-- No longer part could begin a character. -/
  longest : ∀ longer, longer <+: part ++ rest → BeginsCharacter longer →
    longer.length ≤ part.length

/-- The invalid part at a place is the only one there. -/
theorem IsInvalidPart.unique {part rest otherPart otherRest : ByteString}
    (isInvalid : IsInvalidPart part rest) (isInvalidOther : IsInvalidPart otherPart otherRest)
    (same : part ++ rest = otherPart ++ otherRest) : part = otherPart ∧ rest = otherRest := by
  have length_le {first second firstRest secondRest : ByteString}
      (isInvalidFirst : IsInvalidPart first firstRest)
      (isInvalidSecond : IsInvalidPart second secondRest)
      (equal : first ++ firstRest = second ++ secondRest) : first.length ≤ second.length := by
    have positive := List.length_pos_iff.mpr isInvalidSecond.nonempty
    by_cases several : 1 < first.length
    · exact isInvalidSecond.longest first ⟨firstRest, equal⟩ (isInvalidFirst.begins several)
    · omega
  exact List.append_inj same
    (Nat.le_antisymm (length_le isInvalid isInvalidOther same)
      (length_le isInvalidOther isInvalid same.symm))

/-- What stands at the start of a byte string, a character or an invalid part, and
the rest behind it. -/
inductive Starts : ByteString → Option Char → ByteString → Prop
  | character (character : Char) (rest : ByteString) :
      Starts (String.utf8EncodeChar character ++ rest) (some character) rest
  | invalid {part rest : ByteString} (isInvalid : IsInvalidPart part rest) :
      Starts (part ++ rest) none rest

theorem Starts.length_lt {bytes rest : ByteString} {unit : Option Char}
    (starts : Starts bytes unit rest) : rest.length < bytes.length := by
  cases starts with
  | character character =>
      have positive := String.length_utf8EncodeChar character ▸ character.utf8Size_pos
      rw [List.length_append]
      omega
  | invalid isInvalid =>
      have positive := List.length_pos_iff.mpr isInvalid.nonempty
      rw [List.length_append]
      omega

/-- A text is what a byte string says, with a replacement for every invalid part. -/
inductive Decodes : ByteString → List Char → Prop
  | nil : Decodes [] []
  | cons {bytes rest : ByteString} {unit : Option Char} {text : List Char}
      (starts : Starts bytes unit rest) (later : Decodes rest text) :
      Decodes bytes (unit.getD replacement :: text)

/-! ## Finding invalid parts -/

theorem units_append_of_opens {opened : ByteString} {unfinished : Unfinished}
    (opens : Opens opened unfinished) (bytes : ByteString) :
    units none (opened ++ bytes) = units (some unfinished) bytes := by
  induction opens generalizing bytes with
  | first opening => simp only [List.singleton_append, units, opening]
  | next opens admitted inductionHypothesis =>
      rw [List.append_assoc, inductionHypothesis, List.singleton_append, units, if_pos admitted]

theorem units_of_not_admits {unfinished : Unfinished} {byte : UInt8}
    (refused : unfinished.admits byte = false) (rest : ByteString) :
    units (some unfinished) (byte :: rest) = none :: units none (byte :: rest) := by
  simp only [units, refused, Bool.false_eq_true, if_false]

theorem not_isPrefix_of_units {bytes : ByteString} {later : List (Option Char)}
    (found : units none bytes = none :: later) (character : Char) :
    ¬ String.utf8EncodeChar character <+: bytes := by
  rintro ⟨rest, rfl⟩
  rw [units_utf8EncodeChar] at found
  exact nomatch found

/-- Bytes do not begin a character if an invalid unit is found there whatever follows. -/
theorem not_beginsCharacter {bytes : ByteString}
    (found : ∀ rest, ∃ later, units none (bytes ++ rest) = none :: later) :
    ¬ BeginsCharacter bytes := by
  rintro ⟨character, rest, whole⟩
  obtain ⟨later, invalid⟩ := found rest
  exact not_isPrefix_of_units invalid character (whole ▸ List.prefix_refl _)

/-- A part that no byte behind it continues is an invalid part. -/
theorem isInvalidPart_of_units {part rest : ByteString} {later : List (Option Char)}
    (nonempty : part ≠ []) (found : units none (part ++ rest) = none :: later)
    (begins : 1 < part.length → BeginsCharacter part)
    (ends : ∀ byte ∈ rest.head?, ¬ BeginsCharacter (part ++ [byte])) :
    IsInvalidPart part rest where
  nonempty := nonempty
  noCharacter := not_isPrefix_of_units found
  begins := begins
  longest := by
    intro longer isPrefix beginsLonger
    refine Nat.le_of_not_lt fun tooLong => ?_
    cases rest with
    | nil =>
        have lengths := isPrefix.length_le
        rw [List.append_nil] at lengths
        omega
    | cons byte rest =>
        have reaches : part ++ [byte] <+: longer := by
          have starts : part ++ [byte] <+: part ++ byte :: rest := ⟨rest, by simp⟩
          apply List.prefix_of_prefix_length_le starts isPrefix
          rw [List.length_append, List.length_singleton]
          omega
        exact ends byte rfl (beginsLonger.of_isPrefix reaches)

namespace Opens

variable {opened : ByteString} {unfinished : Unfinished}

theorem isInvalidPart_nil (opens : Opens opened unfinished) : IsInvalidPart opened [] := by
  have found : units none (opened ++ []) = [none] := by
    rw [units_append_of_opens opens, units]
  exact isInvalidPart_of_units opens.ne_nil found (fun _ => opens.beginsCharacter) (by simp)

theorem isInvalidPart_cons (opens : Opens opened unfinished) {byte : UInt8}
    (refused : unfinished.admits byte = false) (rest : ByteString) :
    IsInvalidPart opened (byte :: rest) := by
  have found (rest : ByteString) :
      units none (opened ++ byte :: rest) = none :: units none (byte :: rest) := by
    rw [units_append_of_opens opens, units_of_not_admits refused]
  refine isInvalidPart_of_units opens.ne_nil (found rest) (fun _ => opens.beginsCharacter) ?_
  rintro _ ⟨⟩
  exact not_beginsCharacter fun rest => ⟨_, by rw [List.append_assoc]; exact found rest⟩

end Opens

theorem isInvalidPart_singleton {byte : UInt8} (invalid : lead byte = .invalid)
    (rest : ByteString) : IsInvalidPart [byte] rest := by
  have found (rest : ByteString) : units none ([byte] ++ rest) = none :: units none rest := by
    simp only [List.singleton_append, units, invalid]
  refine isInvalidPart_of_units (List.cons_ne_nil _ _) (found rest) (by simp) ?_
  intro other _
  exact not_beginsCharacter fun rest => ⟨_, by rw [List.append_assoc]; exact found _⟩

/-! ## What stands at the start -/

theorem exists_starts_of_opens {opened : ByteString} {unfinished : Unfinished}
    (opens : Opens opened unfinished) (bytes : ByteString) :
    ∃ unit rest, Starts (opened ++ bytes) unit rest ∧
      units (some unfinished) bytes = unit :: units none rest := by
  -- Every byte that may come next is moved to the open ones, until the character is complete.
  induction bytes generalizing opened unfinished with
  | nil => exact ⟨none, [], .invalid opens.isInvalidPart_nil, by rw [units, units]⟩
  | cons byte bytes inductionHypothesis =>
      obtain ⟨bits, missing, low, high⟩ := unfinished
      cases admitted : Unfinished.admits ⟨bits, missing, low, high⟩ byte with
      | false =>
          exact ⟨none, byte :: bytes, .invalid (opens.isInvalidPart_cons admitted bytes),
            units_of_not_admits admitted bytes⟩
      | true =>
          cases missing with
          | zero =>
              refine ⟨_, bytes, ?_, by rw [units, if_pos admitted]⟩
              have starts := Starts.character
                (Char.ofNat (Unfinished.extend ⟨bits, 0, low, high⟩ byte)) bytes
              rwa [opens.utf8EncodeChar_extend admitted, List.append_assoc] at starts
          | succ missing =>
              obtain ⟨unit, rest, starts, found⟩ := inductionHypothesis (opens.next admitted)
              rw [List.append_assoc] at starts
              exact ⟨unit, rest, starts, by rw [units, if_pos admitted]; exact found⟩

theorem exists_starts {bytes : ByteString} (nonempty : bytes ≠ []) :
    ∃ unit rest, Starts bytes unit rest ∧ units none bytes = unit :: units none rest := by
  obtain ⟨byte, bytes, rfl⟩ := List.exists_cons_of_ne_nil nonempty
  cases meaning : lead byte with
  | whole character =>
      have starts := Starts.character character bytes
      rw [utf8EncodeChar_of_lead meaning] at starts
      exact ⟨_, bytes, starts, by simp only [units, meaning]⟩
  | opening unfinished =>
      obtain ⟨unit, rest, starts, found⟩ := exists_starts_of_opens (.first meaning) bytes
      exact ⟨unit, rest, starts, by simp only [units, meaning, found]⟩
  | invalid =>
      exact ⟨none, bytes, .invalid (isInvalidPart_singleton meaning bytes),
        by simp only [units, meaning]⟩

theorem units_of_starts {bytes rest : ByteString} {unit : Option Char}
    (starts : Starts bytes unit rest) : units none bytes = unit :: units none rest := by
  cases starts with
  | character character => exact units_utf8EncodeChar character rest
  | @invalid part rest isInvalid =>
      have nonempty : part ++ rest ≠ [] := by simp [isInvalid.nonempty]
      obtain ⟨unit, others, starts, found⟩ := exists_starts nonempty
      rw [found]
      generalize whole : part ++ rest = bytes at starts
      cases starts with
      | character character =>
          exact absurd ⟨others, whole.symm⟩ (isInvalid.noCharacter character)
      | invalid isInvalidOther => rw [(isInvalid.unique isInvalidOther whole).2]

theorem decodes_decodeLossy (bytes : ByteString) : Decodes bytes (decodeLossy bytes) := by
  induction length : bytes.length using Nat.strongRecOn generalizing bytes with
  | ind count inductionHypothesis =>
      by_cases empty : bytes = []
      · subst empty
        exact .nil
      · obtain ⟨unit, rest, starts, found⟩ := exists_starts empty
        have later := inductionHypothesis rest.length (length ▸ starts.length_lt) rest rfl
        have text_eq : decodeLossy bytes = unit.getD replacement :: decodeLossy rest := by
          rw [decodeLossy, found, List.map_cons, decodeLossy]
        rw [text_eq]
        exact .cons starts later

/-- Decoding gives the one text that a byte string says. -/
theorem decodes_iff (bytes : ByteString) (text : List Char) :
    Decodes bytes text ↔ decodeLossy bytes = text := by
  constructor
  · intro decodes
    induction decodes with
    | nil => rfl
    | cons starts later inductionHypothesis =>
        rw [decodeLossy, units_of_starts starts, List.map_cons, ← inductionHypothesis, decodeLossy]
  · rintro rfl
    exact decodes_decodeLossy bytes

/-! ## Text -/

/-- A byte string whose units are all characters encodes these. -/
theorem units_eq_map_some_iff (bytes : ByteString) (text : List Char) :
    units none bytes = text.map some ↔ bytes = encode text := by
  constructor
  · intro found
    induction text generalizing bytes with
    | nil =>
        cases bytes with
        | nil => rfl
        | cons byte bytes =>
            obtain ⟨_, _, _, units_eq⟩ := exists_starts (List.cons_ne_nil byte bytes)
            rw [units_eq] at found
            exact nomatch found
    | cons character text inductionHypothesis =>
        have nonempty : bytes ≠ [] := by
          rintro rfl
          exact nomatch found
        obtain ⟨unit, rest, starts, units_eq⟩ := exists_starts nonempty
        rw [units_eq, List.map_cons, List.cons.injEq] at found
        obtain ⟨rfl, foundLater⟩ := found
        cases starts with
        | character => rw [encode_cons, inductionHypothesis rest foundLater]
  · rintro rfl
    simpa [units] using units_encode text []

theorem mapM_id_eq_some_iff (units : List (Option Char)) (text : List Char) :
    units.mapM id = some text ↔ units = text.map some := by
  induction units generalizing text with
  | nil => cases text <;> simp
  | cons unit units inductionHypothesis =>
      cases unit with
      | none => cases text <;> simp
      | some character =>
          have split : (some character :: units).mapM id =
              (units.mapM id).map (character :: ·) := by
            rw [List.mapM_cons]
            cases units.mapM id <;> rfl
          rw [split, Option.map_eq_some_iff]
          constructor
          · rintro ⟨later, found, rfl⟩
            rw [(inductionHypothesis later).mp found, List.map_cons]
          · intro same
            cases text with
            | nil => exact nomatch same
            | cons first text =>
                obtain ⟨rfl, rfl⟩ : character = first ∧ units = text.map some := by
                  simpa using same
                exact ⟨text, (inductionHypothesis text).mpr rfl, rfl⟩

theorem decode?_eq_some_iff (bytes : ByteString) (text : List Char) :
    decode? bytes = some text ↔ bytes = encode text := by
  rw [decode?, mapM_id_eq_some_iff, units_eq_map_some_iff]

/-- A byte string in which nothing is replaced is text. -/
theorem eq_encode_decodeLossy {bytes : ByteString} (intact : replacement ∉ decodeLossy bytes) :
    bytes = encode (decodeLossy bytes) := by
  rw [← units_eq_map_some_iff]
  have kept : ∀ unit ∈ units none bytes, some (unit.getD replacement) = unit := by
    intro unit member
    cases unit with
    | none => exact absurd (List.mem_map_of_mem member) intact
    | some character => rfl
  calc
    units none bytes = (units none bytes).map id := (List.map_id _).symm
    _ = (units none bytes).map (fun unit => some (unit.getD replacement)) :=
      (List.map_congr_left kept).symm
    _ = (decodeLossy bytes).map some := by rw [decodeLossy, List.map_map]; rfl

/-! ## Text behind a byte string -/

/-- Text that follows an unfinished character leaves it unfinished. -/
theorem units_encode_of_opens {opened : ByteString} {unfinished : Unfinished}
    (opens : Opens opened unfinished) (text : List Char) :
    units (some unfinished) (encode text) = none :: text.map some := by
  cases text with
  | nil => rw [encode_nil, units, List.map_nil]
  | cons character text =>
      obtain ⟨byte, later, whole, meaning⟩ := exists_utf8EncodeChar_eq_cons character
      have refused : unfinished.admits byte = false := by
        rw [← Bool.not_eq_true]
        exact fun admitted => meaning (opens.lead_of_admits admitted)
      have found : units none (encode (character :: text)) = (character :: text).map some :=
        (units_eq_map_some_iff _ _).mpr rfl
      rw [encode_cons, whole, List.cons_append] at found ⊢
      rw [units_of_not_admits refused, found]

/-- Text behind a byte string is decoded apart from it. -/
theorem units_append_encode (bytes : ByteString) (text : List Char) :
    units none (bytes ++ encode text) = units none bytes ++ text.map some := by
  -- A first byte leads into an unfinished character, so the induction holds inside of one as well.
  have generalized : units none (bytes ++ encode text) = units none bytes ++ text.map some ∧
      ∀ opened unfinished, Opens opened unfinished →
        units (some unfinished) (bytes ++ encode text) =
          units (some unfinished) bytes ++ text.map some := by
    induction bytes with
    | nil =>
        refine ⟨(units_eq_map_some_iff _ _).mpr rfl, fun opened unfinished opens => ?_⟩
        exact units_encode_of_opens opens text
    | cons byte bytes inductionHypothesis =>
        obtain ⟨atStart, inside⟩ := inductionHypothesis
        have first : units none (byte :: bytes ++ encode text) =
            units none (byte :: bytes) ++ text.map some := by
          rw [List.cons_append, units, units]
          cases meaning : lead byte with
          | whole character => simp only [atStart, List.cons_append]
          | opening unfinished => exact inside _ unfinished (.first meaning)
          | invalid => simp only [atStart, List.cons_append]
        refine ⟨first, fun opened unfinished opens => ?_⟩
        obtain ⟨bits, missing, low, high⟩ := unfinished
        cases admitted : Unfinished.admits ⟨bits, missing, low, high⟩ byte with
        | false =>
            rw [List.cons_append, units_of_not_admits admitted, units_of_not_admits admitted,
              ← List.cons_append, first, List.cons_append]
        | true =>
            rw [List.cons_append, units, units, if_pos admitted, if_pos admitted]
            cases missing with
            | zero => simp only [atStart, List.cons_append]
            | succ missing => exact inside _ _ (opens.next admitted)
  exact generalized.1

theorem decodeLossy_append_encode (bytes : ByteString) (text : List Char) :
    decodeLossy (bytes ++ encode text) = decodeLossy bytes ++ text := by
  rw [decodeLossy, units_append_encode, List.map_append, List.map_map]
  exact congrArg (decodeLossy bytes ++ ·) (List.map_id text)

theorem decodeLossy_encode_append (text : List Char) (bytes : ByteString) :
    decodeLossy (encode text ++ bytes) = text ++ decodeLossy bytes := by
  rw [decodeLossy, units_encode, List.map_append, List.map_map]
  exact congrArg (· ++ decodeLossy bytes) (List.map_id text)

end Utf8
end GraphFixture
