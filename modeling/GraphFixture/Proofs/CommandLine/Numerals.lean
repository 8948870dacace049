import GraphFixture.Proofs.CommandLine.Acceptance
import GraphFixture.Proofs.Text.Decoding
import GraphFixture.Log.Line
import GraphFixture.Run.Journal

/-!
# Numerals on the command line

A command line is otherwise well-formed around the value of an option when it is
accepted by the grammar with some value there.  Then the value alone decides: a
value that is read gives a request that holds it, and what is wrong with any other
value is what is wrong with the command line.
-/

namespace GraphFixture
namespace CommandLine

/-! ## A value among other arguments -/

/-- The long name of an option with a value attached to it. -/
def assignment (name : OptionName) (value : ByteString) : ByteString :=
  longName name ++ equalsSign :: value

/-- A command line that generates a fixture, with a value assigned to an option among
other arguments. -/
def lineAround (program : ByteString) (before after : List ByteString) (name : OptionName)
    (value : ByteString) : List ByteString :=
  program :: ByteString.ofWord "generate" :: (before ++ assignment name value :: after)

variable {name : OptionName} {value other : ByteString} {before after : List ByteString}
variable {settings : List Setting} {spellings : List (List ByteString)}

theorem shape_assignment (name : OptionName) (value : ByteString) :
    Shape.of (assignment name value) = .long (ByteString.ofWord name.word) (some value) :=
  shape_longName_attached name value

/-- Only one spelling has a value attached to a long name. -/
theorem Spells.of_mem_assignment {setting : Setting} {spelling : List ByteString}
    (spells : Spells setting spelling) (member : assignment name value ∈ spelling) :
    spelling = [assignment name value] ∧ setting.name = name ∧ setting.Writes value := by
  have shape := shape_assignment name value
  have not_plain {argument : ByteString} (isPlain : IsPlain argument) :
      assignment name value ≠ argument := by
    rintro rfl
    exact nomatch shape.symm.trans ((shape_eq_plain_iff _).mpr isPlain)
  have not_short {argument : ByteString} (cluster : ByteString)
      (short : Shape.of argument = .short cluster) : assignment name value ≠ argument := by
    rintro rfl
    exact nomatch shape.symm.trans short
  cases spells with
  | detached writes isPlain =>
      rcases List.mem_pair.mp member with same | same
      · rw [same, shape_longName] at shape
        exact absurd (Shape.long.inj shape).2 nofun
      · exact absurd same (not_plain isPlain)
  | attached writes =>
      have same := List.mem_singleton.mp member
      rw [same, shape_longName_attached] at shape
      obtain ⟨sameWord, sameValue⟩ := Shape.long.inj shape
      have sameName : setting.name = name := by
        have found := ofWord?_word setting.name
        rw [sameWord, ofWord?_word] at found
        exact (Option.some.inj found).symm
      obtain rfl := Option.some.inj sameValue
      exact ⟨by rw [same], sameName, writes⟩
  | letterDetached nonempty isPlain =>
      rcases List.mem_pair.mp member with same | same
      · exact absurd same (not_short [outputLetter] rfl)
      · exact absurd same (not_plain isPlain)
  | @letterAssigned path nonempty =>
      exact absurd (List.mem_singleton.mp member)
        (not_short (outputLetter :: equalsSign :: path) rfl)
  | @letterAttached path nonempty unassigned =>
      exact absurd (List.mem_singleton.mp member) (not_short (outputLetter :: path) rfl)

/-- An item of two lists in a row stands in the second or in the first of them. -/
theorem append_cons_eq_append {α : Type} {before after first second : List α} {item : α}
    (whole : before ++ item :: after = first ++ second) :
    (∃ beyond, before = first ++ beyond ∧ beyond ++ item :: after = second) ∨
      ∃ within, first = before ++ item :: within ∧ after = within ++ second := by
  rcases List.append_eq_append_iff.mp whole with ⟨within, first_eq, rest_eq⟩ |
    ⟨beyond, before_eq, second_eq⟩
  · cases within with
    | nil => exact .inl ⟨[], by rw [first_eq, List.append_nil, List.append_nil], rest_eq⟩
    | cons found within =>
        obtain ⟨rfl, after_eq⟩ := List.cons.inj rest_eq
        exact .inr ⟨within, first_eq, after_eq⟩
  · exact .inl ⟨beyond, before_eq, second_eq.symm⟩

/-- Settings that are spelled with a value assigned to an option are settings before
that one, the setting of the option, and settings after it. -/
theorem exists_settings_around (spelled : List.Forall₂ Spells settings spellings)
    {ending : List ByteString} (isEnding : IsEnding ending)
    (whole : before ++ assignment name other :: after = spellings.flatten ++ ending) :
    ∃ earlier setting later earlierSpellings laterSpellings,
      settings = earlier ++ setting :: later ∧ setting.name = name ∧
      before = List.flatten earlierSpellings ∧ after = List.flatten laterSpellings ++ ending ∧
      List.Forall₂ Spells earlier earlierSpellings ∧ List.Forall₂ Spells later laterSpellings := by
  -- The first spelling ends before the assignment, or else it is the assignment.
  induction spelled generalizing before with
  | nil =>
      have member : assignment name other ∈ ending := by
        rw [List.flatten_nil, List.nil_append] at whole
        rw [← whole]
        exact List.mem_append_right before List.mem_cons_self
      have shape := shape_assignment name other
      rcases isEnding with rfl | rfl
      · exact absurd member List.not_mem_nil
      · rw [List.mem_singleton.mp member] at shape
        exact nomatch shape
  | @cons setting spelling settings spellings spells spelledLater inductionHypothesis =>
      rw [List.flatten_cons, List.append_assoc] at whole
      rcases append_cons_eq_append whole with ⟨beyond, rfl, rest_eq⟩ | ⟨within, rfl, after_eq⟩
      · obtain ⟨earlier, found, later, earlierSpellings, laterSpellings, rfl, sameName, rfl, rfl,
          spelledEarlier, spelledAfter⟩ := inductionHypothesis rest_eq
        exact ⟨setting :: earlier, found, later, spelling :: earlierSpellings, laterSpellings, rfl,
          sameName, rfl, rfl, .cons spells spelledEarlier, spelledAfter⟩
      · obtain ⟨alone, sameName, _⟩ :=
          spells.of_mem_assignment (List.mem_append_right before List.mem_cons_self)
        obtain ⟨rfl, rfl⟩ : before = [] ∧ within = [] := by
          simpa [List.append_eq_singleton_iff] using alone
        exact ⟨[], setting, settings, [], spellings, rfl, sameName, rfl, after_eq, .nil,
          spelledLater⟩

/-! ## Reading around a value -/

theorem Assigns.exists_append {given final : Given} {first second : List Setting}
    (assigns : Assigns given (first ++ second) final) :
    ∃ middle, Assigns given first middle ∧ Assigns middle second final := by
  induction first generalizing given with
  | nil => exact ⟨given, .nil given, assigns⟩
  | cons setting first inductionHypothesis =>
      cases assigns with
      | cons fresh later =>
          obtain ⟨middle, assignsFirst, assignsSecond⟩ := inductionHypothesis later
          exact ⟨middle, .cons fresh assignsFirst, assignsSecond⟩

theorem readOptions_assignment_of_error {given : Given} {refusal : Refusal}
    (fresh : given.has name = false) (refused : readSetting name value = .error refusal)
    (rest : List ByteString) :
    readOptions ⟨given, none⟩ (assignment name value :: rest) = .error refusal := by
  rw [readOptions_of_long (shape_assignment name value)]
  simp only [Progress.readLong, ofWord?_word, Progress.takeUp, settle,
    Given.assign_of_has_eq_false fresh, refused, Except.map, Except.bind]

theorem parse_generate (program : ByteString) (options : List ByteString) :
    parse (program :: ByteString.ofWord "generate" :: options) =
      (readOptions {} options).map Given.complete := by
  rw [parse, List.drop_one, List.tail_cons]
  exact if_pos rfl

/-- Around a value that can be assigned, a value that cannot be read is refused, and
one that can be read is held by the request. -/
theorem parse_lineAround (program : ByteString)
    (wellFormed : ∃ other settings, Generates (lineAround program before after name other) settings)
    (value : ByteString) :
    (∀ refusal, readSetting name value = .error refusal →
      parse (lineAround program before after name value) = .error refusal) ∧
    ∀ setting, readSetting name value = .ok setting →
      ∃ invocation settings, parse (lineAround program before after name value) = .ok invocation ∧
        invocation.Holds settings ∧ setting ∈ settings := by
  obtain ⟨other, settings, _, options, line_eq, different, spellings, ending, rfl, spelled,
    isEnding⟩ := wellFormed
  obtain ⟨rfl, whole⟩ : program = _ ∧ before ++ assignment name other :: after =
      spellings.flatten ++ ending := by
    simpa [lineAround] using line_eq
  obtain ⟨earlier, found, later, earlierSpellings, laterSpellings, rfl, rfl, rfl, rfl,
    spelledEarlier, spelledLater⟩ := exists_settings_around spelled isEnding whole
  constructor
  · intro refusal refused
    obtain ⟨final, assigns⟩ :=
      Assigns.exists_of_nodup {} different fun _ _ => Given.has_empty _
    obtain ⟨middle, assignsEarlier, assignsRest⟩ := assigns.exists_append
    cases assignsRest with
    | cons freshHere _ =>
        rw [lineAround, parse_generate, readOptions_append_of_assigns spelledEarlier assignsEarlier,
          readOptions_assignment_of_error freshHere refused]
        rfl
  · intro setting read
    obtain ⟨sameName, writes⟩ := (readSetting_eq_ok_iff _ _ _).mp read
    have spelledHere : Spells setting [assignment found.name value] := by
      rw [← sameName]
      exact .attached writes
    have differentHere : ((earlier ++ setting :: later).map Setting.name).Nodup := by
      simpa [sameName] using different
    obtain ⟨final, assigns⟩ :=
      Assigns.exists_of_nodup {} differentHere fun _ _ => Given.has_empty _
    obtain ⟨middle, assignsEarlier, assignsRest⟩ := assigns.exists_append
    cases assignsRest with
    | cons freshHere assignsLater =>
        refine ⟨final.complete, _, ?_, (assigns.holds_iff _).mpr rfl, by simp⟩
        rw [lineAround, parse_generate, readOptions_append_of_assigns spelledEarlier assignsEarlier,
          ← List.singleton_append, readOptions_append_of_spells freshHere spelledHere,
          readOptions_of_assigns spelledLater isEnding assignsLater]
        rfl

/-! ## Numerals -/

/-- The number that a request holds for an option. -/
def Invocation.number? (invocation : Invocation) : OptionName → Option UInt64
  | .nodes => some invocation.nodeCount
  | .seed => invocation.seed
  | .layout => none
  | .output => none

/-- The options whose values are numbers. -/
def OptionName.IsNumeric (name : OptionName) : Prop :=
  name = .nodes ∨ name = .seed

theorem OptionName.IsNumeric.exists_setting (numeric : name.IsNumeric) :
    ∃ make : UInt64 → Setting,
      (∀ value, readSetting name value = (readNumeral name value).map make) ∧
      ∀ (invocation : Invocation) settings number, invocation.Holds settings →
        make number ∈ settings → invocation.number? name = some number := by
  rcases numeric with rfl | rfl
  · exact ⟨.nodes, fun _ => rfl, fun _ _ number holds member =>
      congrArg some (holds.nodeCount number member)⟩
  · exact ⟨.seed, fun _ => rfl, fun _ _ number holds member => holds.seed number member⟩

theorem readNumeral_encode (name : OptionName) (text : List Char) :
    readNumeral name (Utf8.encode text) =
      (Numeral.read (Utf8.encode text)).mapError (.invalidNumeral name (String.ofList text)) := by
  rw [readNumeral, Utf8.decode?_encode]

theorem readNumeral_of_noText (name : OptionName) (noText : ∀ text, value ≠ Utf8.encode text) :
    readNumeral name value = .error .invalidText := by
  rw [readNumeral]
  cases decoded : Utf8.decode? value with
  | none => rfl
  | some text => exact absurd ((Utf8.decode?_eq_some_iff value text).mp decoded) (noText text)

/-- A command line is refused since a numeral is at fault, with the given message. -/
def RefusesNumeral (outcome : Except Refusal Invocation) (name : OptionName) (text : List Char)
    (message : String) : Prop :=
  ∃ fault : Numeral.Fault, outcome = .error (.invalidNumeral name (String.ofList text) fault) ∧
    fault.message = message

/-- What comes of a command line for a value of a numeric option: it holds the number
that the value denotes, or else tells what is wrong with the value. -/
structure ReadsNumeral (outcome : Except Refusal Invocation) (name : OptionName)
    (value : ByteString) : Prop where
  /-- Behind the sign there are digits and nothing else. -/
  accepted : ∀ number : UInt64,
    (∃ invocation, outcome = .ok invocation ∧ invocation.number? name = some number) ↔
      Numeral.unsigned value ≠ [] ∧
      Numeral.leadingDigits (Numeral.unsigned value) = Numeral.unsigned value ∧
      Numeral.valueFrom 0 (Numeral.leadingDigits (Numeral.unsigned value)) = number.toNat
  noText : (∀ text, value ≠ Utf8.encode text) → outcome = .error .invalidText
  empty : value = [] → RefusesNumeral outcome name [] "cannot parse integer from empty string"
  /-- The first digits are too many, whatever stands behind them. -/
  tooLarge : ∀ text, value = Utf8.encode text →
    UInt64.size ≤ Numeral.valueFrom 0 (Numeral.leadingDigits (Numeral.unsigned value)) →
    RefusesNumeral outcome name text "number too large to fit in target type"
  /-- In all remaining cases a digit is missing. -/
  invalidDigit : ∀ text, value = Utf8.encode text → value ≠ [] →
    Numeral.valueFrom 0 (Numeral.leadingDigits (Numeral.unsigned value)) < UInt64.size →
    ¬ (Numeral.unsigned value ≠ [] ∧
      Numeral.leadingDigits (Numeral.unsigned value) = Numeral.unsigned value) →
    RefusesNumeral outcome name text "invalid digit found in string"

/-- A text is how the program writes a number: in the name of a node, or in the log. -/
def Prints (number : UInt64) (text : List Char) : Prop :=
  (NodeName.indexed number).text = NodeName.stem ++ text ∨
    text = (Journal.wordValue number).plain.toList ∨
    text = (Journal.wordValue number).json.toList

theorem Prints.eq_digits {number : UInt64} {text : List Char} (prints : Prints number text) :
    text = Decimal.digits number.toNat := by
  rcases prints with named | rfl | rfl
  · exact (List.append_cancel_left named).symm
  · simp [Journal.wordValue, Log.Value.plain]
  · simp [Journal.wordValue, Log.Value.json, Log.Value.plain]

theorem readsNumeral_of_readNumeral {outcome : Except Refusal Invocation}
    (refused : ∀ refusal, readNumeral name value = .error refusal → outcome = .error refusal)
    (accepted : ∀ number, readNumeral name value = .ok number →
      ∃ invocation, outcome = .ok invocation ∧ invocation.number? name = some number) :
    ReadsNumeral outcome name value := by
  have refusedNumeral {text : List Char} {fault : Numeral.Fault}
      (isText : value = Utf8.encode text) (wrong : Numeral.read value = .error fault) :
      RefusesNumeral outcome name text fault.message := by
    refine ⟨fault, refused _ ?_, rfl⟩
    rw [isText, readNumeral_encode, ← isText, wrong]
    rfl
  constructor
  case accepted =>
    intro number
    rw [← Numeral.denotes_iff, ← readNumeral_eq_ok_iff name]
    constructor
    · rintro ⟨invocation, isOk, holds⟩
      cases read : readNumeral name value with
      | error refusal => exact nomatch (refused refusal read).symm.trans isOk
      | ok other =>
          obtain ⟨_, isOther, holdsOther⟩ := accepted other read
          obtain rfl := Except.ok.inj (isOk.symm.trans isOther)
          rw [Option.some.inj (holds.symm.trans holdsOther)]
    · exact accepted number
  case noText => exact fun noText => refused _ (readNumeral_of_noText name noText)
  case empty =>
    rintro rfl
    exact refusedNumeral (show _ = Utf8.encode [] from rfl) rfl
  case tooLarge =>
    exact fun text isText tooLarge => refusedNumeral isText (Numeral.read_of_tooLarge tooLarge)
  case invalidDigit =>
    exact fun text isText nonempty small noDigits =>
      refusedNumeral isText (Numeral.read_of_invalidDigit nonempty small noDigits)

/-- Around a numeric option a command line that is otherwise well-formed reads the
value of the option exactly, and what the program prints is read back. -/
theorem lineAround_readsNumeral (program : ByteString) (before after : List ByteString)
    (name : OptionName) (numeric : name.IsNumeric)
    (wellFormed : ∃ other settings,
      Generates (lineAround program before after name other) settings) :
    (∀ value, ReadsNumeral (parse (lineAround program before after name value)) name value) ∧
    ∀ number text, Prints number text → ∃ invocation,
      parse (lineAround program before after name (Utf8.encode text)) = .ok invocation ∧
        invocation.number? name = some number := by
  obtain ⟨make, readSetting_eq, number?_eq⟩ := numeric.exists_setting
  have refused {value : ByteString} (refusal : Refusal)
      (wrong : readNumeral name value = .error refusal) :
      parse (lineAround program before after name value) = .error refusal := by
    apply (parse_lineAround program wellFormed value).1
    rw [readSetting_eq, wrong]
    rfl
  have accepted {value : ByteString} (number : UInt64)
      (read : readNumeral name value = .ok number) :
      ∃ invocation, parse (lineAround program before after name value) = .ok invocation ∧
        invocation.number? name = some number := by
    have readHere : readSetting name value = .ok (make number) := by
      rw [readSetting_eq, read]
      rfl
    obtain ⟨invocation, settings, parsed, holds, member⟩ :=
      (parse_lineAround program wellFormed value).2 _ readHere
    exact ⟨invocation, parsed, number?_eq _ _ _ holds member⟩
  refine ⟨fun value => readsNumeral_of_readNumeral refused accepted, ?_⟩
  intro number text prints
  apply accepted number
  rw [readNumeral_eq_ok_iff, prints.eq_digits]
  exact Decimal.denotes_encode_digits number

/-- Among two other options, a seed that starts with too many digits is refused for
these, and the largest seed that is printed is read back. -/
theorem lineAround_readsNumeral_seed :
    let line := lineAround (ByteString.ofWord "nodeforge") [ByteString.ofWord "--nodes=12"]
      (["-oout", "--"].map ByteString.ofWord) .seed
    OptionName.seed.IsNumeric ∧ (∃ other settings, Generates (line other) settings) ∧
      RefusesNumeral (parse (line (Utf8.encode "+018446744073709551616x".toList))) .seed
        "+018446744073709551616x".toList "number too large to fit in target type" ∧
      ∃ invocation, parse (line (Utf8.encode "18446744073709551615".toList)) = .ok invocation ∧
        invocation.seed = some 18446744073709551615 := by
  intro line
  have wellFormed : ∃ other settings, Generates (line other) settings := by
    have twelve : Setting.Writes (.nodes 12) (ByteString.ofWord "12") :=
      ⟨[0x31, 0x32], .inl rfl, by decide, by simp [Numeral.IsDigit], rfl⟩
    have seven : Setting.Writes (.seed 7) (ByteString.ofWord "+7") :=
      ⟨[0x37], .inr rfl, by decide, by simp [Numeral.IsDigit], rfl⟩
    refine ⟨ByteString.ofWord "+7", [.nodes 12, .seed 7, .output (ByteString.ofWord "out")], _, _,
      rfl, by decide, [["--nodes=12"], ["--seed=+7"], ["-oout"]].map (List.map ByteString.ofWord),
      [[dash, dash]], rfl, ?_, .inr rfl⟩
    refine .cons ?_ (.cons ?_ (.cons ?_ .nil))
    · exact .attached twelve
    · exact .attached seven
    · exact .letterAttached (by decide) (by decide)
  have numeric : OptionName.seed.IsNumeric := .inr rfl
  have reads := lineAround_readsNumeral _ _ _ .seed numeric wellFormed
  refine ⟨numeric, wellFormed, (reads.1 _).tooLarge _ rfl (by decide), ?_⟩
  exact reads.2 18446744073709551615 _ (.inr (.inl (by decide)))

end CommandLine
end GraphFixture
