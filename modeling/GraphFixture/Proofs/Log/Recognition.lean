import GraphFixture.Log.Setup
import GraphFixture.Proofs.Text.Decoding
import GraphFixture.Proofs.Text.Spelling

/-!
# Which settings name a format of the log

A setting names a format exactly when it is text that spells the word of the
format.  Replacements are neither white space nor letters, so a setting that is
no text names none.  Whatever names none is reported as it was decoded, with the
white space around it.
-/

namespace GraphFixture
namespace Log

namespace Format

/-- A byte string is text that spells a word. -/
def Names (raw : ByteString) (word : List Char) : Prop :=
  ∃ text, raw = Utf8.encode text ∧ Spelling.IsSpelling text word

theorem isLower_of_mem_word (format : Format) : ∀ letter ∈ format.word, letter.isLower = true :=
  List.all_eq_true.mp (by cases format <;> decide)

theorem read_eq_ok_iff (text : List Char) (format : Format) :
    read text = .ok format ↔ Spelling.IsSpelling text format.word := by
  have different : Format.human.word ≠ Format.json.word := by decide
  rw [← Spelling.map_toLower_trim_eq_iff format.isLower_of_mem_word, read]
  split
  · rename_i isHuman
    cases format <;> simp [isHuman, different]
  · split
    · rename_i isJson
      cases format <;> simp [isJson, different.symm]
    · cases format <;> simp_all

theorem provided_of_read {text : List Char} {error : UnsupportedFormat}
    (refused : read text = .error error) : error.provided = text := by
  unfold read at refused
  dsimp only at refused
  split at refused
  · exact nomatch refused
  · split at refused
    · exact nomatch refused
    · exact (congrArg UnsupportedFormat.provided (Except.error.inj refused)).symm

/-- No replacement is left in what spells the word of a format. -/
theorem replacement_not_mem {text : List Char} {format : Format}
    (spelling : Spelling.IsSpelling text format.word) : Utf8.replacement ∉ text := by
  intro member
  have found := spelling.blank_or_letter format.isLower_of_mem_word Utf8.replacement member
  revert found
  decide

/-- A byte string is accepted exactly when it names the format. -/
theorem ofBytes_eq_ok_iff (raw : ByteString) (format : Format) :
    ofBytes raw = .ok format ↔ Names raw format.word := by
  rw [ofBytes, read_eq_ok_iff]
  constructor
  · intro spelling
    exact ⟨_, Utf8.eq_encode_decodeLossy (replacement_not_mem spelling), spelling⟩
  · rintro ⟨text, rfl, spelling⟩
    rwa [Utf8.decodeLossy_encode]

-- White space of several bytes is removed on both sides.
example : ofBytes ([0xE2, 0x80, 0x83] ++ ByteString.ofWord "JsOn" ++ [0xC2, 0xA0]) = .ok .json := by
  decide

-- A letter beyond ASCII is not folded to the one that it resembles.
example : ofBytes (Utf8.encode "jſon".toList) = .error ⟨"jſon".toList⟩ := by
  decide

/-- What names no format is refused with the text that it is decoded to. -/
theorem ofBytes_eq_error_iff (raw : ByteString) (provided : List Char) :
    ofBytes raw = .error ⟨provided⟩ ↔
      (∀ format : Format, ¬ Names raw format.word) ∧ Utf8.Decodes raw provided := by
  simp only [← ofBytes_eq_ok_iff, Utf8.decodes_iff]
  constructor
  · intro refused
    exact ⟨fun format accepted => absurd (refused.symm.trans accepted) nofun,
      (provided_of_read refused).symm⟩
  · rintro ⟨unnamed, rfl⟩
    cases result : ofBytes raw with
    | ok format => exact absurd result (unnamed format)
    | error error => rw [← provided_of_read result]

/-- White space around a byte string does not change which format it names. -/
theorem ofBytes_append_append_eq_ok_iff {before after : List Char}
    (blankBefore : Blank.IsBlankText before) (blankAfter : Blank.IsBlankText after)
    (raw : ByteString) (format : Format) :
    ofBytes (Utf8.encode before ++ raw ++ Utf8.encode after) = .ok format ↔
      ofBytes raw = .ok format := by
  simp only [ofBytes, Utf8.decodeLossy_append_encode, Utf8.decodeLossy_encode_append,
    read_eq_ok_iff, ← Spelling.map_toLower_trim_eq_iff format.isLower_of_mem_word,
    Blank.trim_append_append blankBefore blankAfter]

end Format

/-- The format that is set up first when a byte string is found in its setting. -/
def Setup.chosenFormat (filter : Option ByteString) (raw : ByteString) :
    Except UnsupportedFormat Format :=
  (install none { format := some raw, filter := filter }).map Setup.format

/-- How the setting of the format is understood. -/
structure Recognised (chosen : ByteString → Except UnsupportedFormat Format)
    (raw : ByteString) : Prop where
  human : chosen raw = .ok .human ↔ Format.Names raw "human".toList
  json : chosen raw = .ok .json ↔ Format.Names raw "json".toList
  /-- A setting of any other kind is refused, together with all of its text. -/
  unsupported : ∀ provided, chosen raw = .error ⟨provided⟩ ↔
    ¬ Format.Names raw "human".toList ∧ ¬ Format.Names raw "json".toList ∧
      Utf8.Decodes raw provided
  /-- Every setting has a text. -/
  decoded : ∃ provided, Utf8.Decodes raw provided
  /-- The text of a setting that is text is the setting itself. -/
  unsupportedText : ∀ text provided, raw = Utf8.encode text →
    chosen raw = .error ⟨provided⟩ → provided = text
  /-- A setting that is no text is refused. -/
  unsupportedBytes : (∀ text, raw ≠ Utf8.encode text) →
    ∃ provided, chosen raw = .error ⟨provided⟩
  /-- White space around a setting makes no difference. -/
  padded : ∀ before after, Blank.IsBlankText before → Blank.IsBlankText after →
    ∀ format, chosen (Utf8.encode before ++ raw ++ Utf8.encode after) = .ok format ↔
      chosen raw = .ok format

theorem Setup.chosenFormat_eq (filter : Option ByteString) (raw : ByteString) :
    chosenFormat filter raw = Format.ofBytes raw := by
  rw [chosenFormat, install, ofSettings, Format.ofSetting]
  cases Format.ofBytes raw <;> rfl

/-- The setting of the format is recognised exactly, whatever bytes it holds. -/
theorem Setup.chosenFormat_recognised (filter : Option ByteString) (raw : ByteString) :
    Recognised (chosenFormat filter) raw where
  human := by
    rw [chosenFormat_eq]
    exact Format.ofBytes_eq_ok_iff raw .human
  json := by
    rw [chosenFormat_eq]
    exact Format.ofBytes_eq_ok_iff raw .json
  unsupported provided := by
    have everyFormat : (∀ format : Format, ¬ Format.Names raw format.word) ↔
        ¬ Format.Names raw "human".toList ∧ ¬ Format.Names raw "json".toList :=
      ⟨fun unnamed => ⟨unnamed .human, unnamed .json⟩, fun both format => by
        cases format with
        | human => exact both.1
        | json => exact both.2⟩
    rw [chosenFormat_eq, Format.ofBytes_eq_error_iff, everyFormat, and_assoc]
  decoded := ⟨_, Utf8.decodes_decodeLossy raw⟩
  unsupportedText text provided isText refused := by
    rw [chosenFormat_eq, isText, Format.ofBytes] at refused
    rw [← Utf8.decodeLossy_encode text]
    exact Format.provided_of_read refused
  unsupportedBytes noText := by
    rw [chosenFormat_eq]
    refine ⟨_, (Format.ofBytes_eq_error_iff raw _).mpr ⟨?_, Utf8.decodes_decodeLossy raw⟩⟩
    rintro format ⟨text, isText, _⟩
    exact noText text isText
  padded before after blankBefore blankAfter format := by
    rw [chosenFormat_eq, chosenFormat_eq]
    exact Format.ofBytes_append_append_eq_ok_iff blankBefore blankAfter raw format

end Log
end GraphFixture
