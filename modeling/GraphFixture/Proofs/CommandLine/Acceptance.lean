import GraphFixture.Proofs.CommandLine.Settings

/-!
# Command lines that are accepted

Reading the options from left to right accepts exactly the spelled settings of
the grammar.  A pending option with its value may be given at once, since
whatever comes next gives it first.  So an option and its value, in one argument
or in two, are one step of the reading.
-/

namespace GraphFixture
namespace CommandLine

open Attempt

/-! ## Reading options -/

variable {given next final : Given} {name : OptionName} {value : ByteString}

/-! What one argument does depends on its shape alone. -/

theorem readOptions_of_long {argument word : ByteString} {attached : Option ByteString}
    (shape : Shape.of argument = .long word attached) (progress : Progress)
    (rest : List ByteString) :
    readOptions progress (argument :: rest) =
      (progress.readLong word attached).bind (readOptions · rest) := by
  rw [readOptions.eq_def]
  simp only [shape]
  cases progress.readLong word attached <;> rfl

theorem readOptions_of_short {argument cluster : ByteString}
    (shape : Shape.of argument = .short cluster) (progress : Progress)
    (rest : List ByteString) :
    readOptions progress (argument :: rest) =
      (progress.readShort cluster).bind (readOptions · rest) := by
  rw [readOptions.eq_def]
  simp only [shape]
  cases progress.readShort cluster <;> rfl

theorem readOptions_of_plain {argument : ByteString} (shape : Shape.of argument = .plain)
    (progress : Progress) (rest : List ByteString) :
    readOptions progress (argument :: rest) =
      (progress.readPlain argument).bind (readOptions · rest) := by
  rw [readOptions.eq_def]
  simp only [shape]
  cases progress.readPlain argument <;> rfl

theorem readOptions_of_escape {argument : ByteString} (shape : Shape.of argument = .escape)
    (progress : Progress) (rest : List ByteString) :
    readOptions progress (argument :: rest) =
      match rest with
      | [] => settle progress.given progress.pending
      | word :: _ => .error (.unknownArgument (ByteString.shown word)) := by
  rw [readOptions.eq_def]
  cases rest <;> simp only [shape]

theorem stopWithHelp_ne_ok (progress later : Progress) (topic : HelpTopic) :
    progress.stopWithHelp topic ≠ .ok later := by
  intro stopped
  obtain ⟨_, _, impossible⟩ := bind_eq_ok_iff.mp stopped
  exact nomatch impossible

/-- Of the arguments with two dashes only the names of options are read on. -/
theorem exists_takeUp_of_readLong {progress later : Progress} {word : ByteString}
    {attached : Option ByteString} (read : progress.readLong word attached = .ok later) :
    ∃ name, word = ByteString.ofWord name.word ∧ progress.takeUp name attached = .ok later := by
  unfold Progress.readLong at read
  cases found : OptionName.ofWord? word with
  | some name =>
      rw [found] at read
      exact ⟨name, eq_of_ofWord? found, read⟩
  | none =>
      rw [found] at read
      dsimp only at read
      split at read
      · cases attached with
        | none => exact absurd read (stopWithHelp_ne_ok _ _ _)
        | some value => exact nomatch read
      · exact nomatch read

/-- Of the arguments with one dash only those for the output are read on. -/
theorem exists_takeUp_of_readShort {progress later : Progress} {cluster : ByteString}
    (read : progress.readShort cluster = .ok later) :
    ∃ rest, cluster = outputLetter :: rest ∧
      progress.takeUp .output (Progress.attachedToLetter rest) = .ok later := by
  cases cluster with
  | nil => cases read
  | cons letter rest =>
      rw [Progress.readShort] at read
      split at read
      · exact absurd read (stopWithHelp_ne_ok _ _ _)
      · split at read
        · rename_i isOutput
          exact ⟨rest, by rw [isOutput], read⟩
        · cases read

/-- Whatever is taken up, the pending option is given first. -/
theorem exists_settle_of_takeUp {progress later : Progress} {attached : Option ByteString}
    (taken : progress.takeUp name attached = .ok later) :
    ∃ settled, settle progress.given progress.pending = .ok settled :=
  (bind_eq_ok_iff.mp taken).imp fun _ both => both.1

/-- An option that waits with its value may as well have been given. -/
theorem readOptions_of_assign (assigned : given.assign name value = .ok next)
    (arguments : List ByteString) :
    readOptions ⟨given, some ⟨name, some value⟩⟩ arguments =
      readOptions ⟨next, none⟩ arguments := by
  have settled : settle given (some ⟨name, some value⟩) = settle next none := assigned
  cases arguments with
  | nil => simp only [readOptions, settled]
  | cons argument rest =>
      cases shape : Shape.of argument with
      | escape => simp only [readOptions_of_escape shape, settled]
      | long word attached =>
          simp only [readOptions_of_long shape, Progress.readLong, Progress.takeUp,
            Progress.stopWithHelp, settled]
      | short cluster =>
          simp only [readOptions_of_short shape, Progress.readShort, Progress.takeUp,
            Progress.stopWithHelp, settled]
      | plain => simp only [readOptions_of_plain shape, Progress.readPlain, Except.bind]

/-- While the pending option cannot be given, only a plain argument may come. -/
theorem exists_plain_of_unsettled (progress : Progress) {refusal : Refusal}
    {arguments : List ByteString}
    (unsettled : settle progress.given progress.pending = .error refusal)
    (read : readOptions progress arguments = .ok final) :
    ∃ argument rest later, arguments = argument :: rest ∧ IsPlain argument ∧
      progress.readPlain argument = .ok later ∧ readOptions later rest = .ok final := by
  have not_takeUp {name : OptionName} {attached : Option ByteString} {later : Progress} :
      progress.takeUp name attached ≠ .ok later := by
    intro taken
    obtain ⟨_, settled⟩ := exists_settle_of_takeUp taken
    exact nomatch unsettled.symm.trans settled
  cases arguments with
  | nil =>
      rw [readOptions, unsettled] at read
      exact nomatch read
  | cons argument rest =>
      cases shape : Shape.of argument with
      | escape =>
          rw [readOptions_of_escape shape] at read
          cases rest with
          | nil => exact nomatch unsettled.symm.trans read
          | cons word others => exact nomatch read
      | long word attached =>
          rw [readOptions_of_long shape, bind_eq_ok_iff] at read
          obtain ⟨later, readFirst, _⟩ := read
          obtain ⟨_, _, taken⟩ := exists_takeUp_of_readLong readFirst
          exact absurd taken not_takeUp
      | short cluster =>
          rw [readOptions_of_short shape, bind_eq_ok_iff] at read
          obtain ⟨later, readFirst, _⟩ := read
          obtain ⟨_, _, taken⟩ := exists_takeUp_of_readShort readFirst
          exact absurd taken not_takeUp
      | plain =>
          rw [readOptions_of_plain shape, bind_eq_ok_iff] at read
          obtain ⟨later, taken, readLater⟩ := read
          exact ⟨argument, rest, later, rfl, (shape_eq_plain_iff argument).mp shape, taken,
            readLater⟩

/-- When the reading succeeds, an option that waits with its value can be given. -/
theorem exists_assign_of_readOptions {arguments : List ByteString}
    (read : readOptions ⟨given, some ⟨name, some value⟩⟩ arguments = .ok final) :
    ∃ next, given.assign name value = .ok next := by
  cases assigned : given.assign name value with
  | ok next => exact ⟨next, rfl⟩
  | error refusal =>
      obtain ⟨argument, _, later, _, _, taken, _⟩ := exists_plain_of_unsettled
        ⟨given, some ⟨name, some value⟩⟩ assigned read
      exact nomatch taken

/-- An option that waits for its value takes a plain argument and nothing else. -/
theorem exists_value_of_readOptions {arguments : List ByteString}
    (read : readOptions ⟨given, some ⟨name, none⟩⟩ arguments = .ok final) :
    ∃ value rest next, arguments = value :: rest ∧ IsPlain value ∧
      given.assign name value = .ok next ∧ readOptions ⟨next, none⟩ rest = .ok final := by
  obtain ⟨value, rest, later, rfl, isPlain, taken, readLater⟩ := exists_plain_of_unsettled
    ⟨given, some ⟨name, none⟩⟩ rfl read
  obtain rfl := Except.ok.inj taken
  obtain ⟨next, assigned⟩ := exists_assign_of_readOptions readLater
  exact ⟨value, rest, next, rfl, isPlain, assigned, readOptions_of_assign assigned rest ▸ readLater⟩

/-! ## One setting -/

theorem readOptions_plain (given : Given) (name : OptionName) (isPlain : IsPlain value)
    (rest : List ByteString) :
    readOptions ⟨given, some ⟨name, none⟩⟩ (value :: rest) =
      readOptions ⟨given, some ⟨name, some value⟩⟩ rest := by
  rw [readOptions_of_plain ((shape_eq_plain_iff value).mpr isPlain)]
  rfl

theorem readOptions_longName (given : Given) (name : OptionName) (rest : List ByteString) :
    readOptions ⟨given, none⟩ (longName name :: rest) =
      readOptions ⟨given, some ⟨name, none⟩⟩ rest := by
  rw [readOptions_of_long (shape_longName name)]
  simp only [Progress.readLong, ofWord?_word]
  rfl

theorem readOptions_longName_attached (assigned : given.assign name value = .ok next)
    (rest : List ByteString) :
    readOptions ⟨given, none⟩ ((longName name ++ equalsSign :: value) :: rest) =
      readOptions ⟨next, none⟩ rest := by
  have takenUp : Progress.takeUp ⟨given, none⟩ name (some value) = .ok ⟨next, none⟩ := by
    simp only [Progress.takeUp, settle, Except.bind, assigned, Except.map]
  rw [readOptions_of_long (shape_longName_attached name value)]
  simp only [Progress.readLong, ofWord?_word, takenUp]
  rfl

theorem readOptions_letter (given : Given) (rest : List ByteString) :
    readOptions ⟨given, none⟩ ([dash, outputLetter] :: rest) =
      readOptions ⟨given, some ⟨.output, none⟩⟩ rest := by
  rw [readOptions_of_short (rfl : Shape.of [dash, outputLetter] = .short [outputLetter])]
  rfl

theorem readOptions_letter_attached {cluster : ByteString}
    (attached : Progress.attachedToLetter cluster = some value)
    (assigned : given.assign .output value = .ok next) (rest : List ByteString) :
    readOptions ⟨given, none⟩ ((dash :: outputLetter :: cluster) :: rest) =
      readOptions ⟨next, none⟩ rest := by
  have shape : Shape.of (dash :: outputLetter :: cluster) = .short (outputLetter :: cluster) := rfl
  have takenUp : Progress.readShort ⟨given, none⟩ (outputLetter :: cluster) = .ok ⟨next, none⟩ := by
    rw [Progress.readShort, if_neg (by decide), if_pos rfl, attached]
    simp only [Progress.takeUp, settle, Except.bind, assigned, Except.map]
  rw [readOptions_of_short shape, takenUp]
  rfl

/-- Reading the spelling of a setting is giving the setting. -/
theorem readOptions_append_of_spells {setting : Setting} {spelling : List ByteString}
    (fresh : given.has setting.name = false) (spells : Spells setting spelling)
    (rest : List ByteString) :
    readOptions ⟨given, none⟩ (spelling ++ rest) = readOptions ⟨given.set setting, none⟩ rest := by
  have assigned {value : ByteString} (writes : setting.Writes value) :
      given.assign setting.name value = .ok (given.set setting) :=
    (given.assign_eq_ok_iff _ _ _).mpr ⟨fresh, setting, rfl, writes, rfl⟩
  cases spells with
  | detached writes isPlain =>
      rw [List.cons_append, List.cons_append, List.nil_append, readOptions_longName,
        readOptions_plain _ _ isPlain, readOptions_of_assign (assigned writes)]
  | attached writes =>
      rw [List.cons_append, List.nil_append, readOptions_longName_attached (assigned writes)]
  | letterDetached nonempty isPlain =>
      rw [List.cons_append, List.cons_append, List.nil_append, readOptions_letter,
        readOptions_plain _ _ isPlain]
      exact readOptions_of_assign (assigned ⟨rfl, nonempty⟩) rest
  | letterAssigned nonempty =>
      exact readOptions_letter_attached rfl (assigned ⟨rfl, nonempty⟩) rest
  | @letterAttached path nonempty unassigned =>
      refine readOptions_letter_attached ?_ (assigned ⟨rfl, nonempty⟩) rest
      cases path with
      | nil => exact absurd rfl nonempty
      | cons first others =>
          have different : first ≠ equalsSign := fun same => unassigned (congrArg some same)
          rw [Progress.attachedToLetter, if_neg different]

/-- The value of an option is attached to it, or else it is the next argument. -/
def Carries (attached : Option ByteString) (arguments : List ByteString) (value : ByteString)
    (rest : List ByteString) : Prop :=
  attached = some value ∧ arguments = rest ∨
    attached = none ∧ arguments = value :: rest ∧ IsPlain value

/-- An option that is taken up with success carries the value of a setting that
was not given before. -/
theorem exists_setting_of_takeUp {attached : Option ByteString} {later : Progress}
    {arguments : List ByteString}
    (taken : Progress.takeUp ⟨given, none⟩ name attached = .ok later)
    (read : readOptions later arguments = .ok final) :
    ∃ setting value rest, setting.name = name ∧ setting.Writes value ∧
      given.has setting.name = false ∧ Carries attached arguments value rest ∧
      readOptions ⟨given.set setting, none⟩ rest = .ok final := by
  cases attached with
  | some value =>
      obtain ⟨next, assigned, rfl⟩ : ∃ next, given.assign name value = .ok next ∧
          (⟨next, none⟩ : Progress) = later := map_eq_ok_iff.mp taken
      obtain ⟨fresh, setting, rfl, writes, rfl⟩ := (given.assign_eq_ok_iff _ _ _).mp assigned
      exact ⟨setting, value, arguments, rfl, writes, fresh, .inl ⟨rfl, rfl⟩, read⟩
  | none =>
      obtain rfl : (⟨given, some { name }⟩ : Progress) = later := Except.ok.inj taken
      obtain ⟨value, rest, next, rfl, isPlain, assigned, readLater⟩ :=
        exists_value_of_readOptions read
      obtain ⟨fresh, setting, rfl, writes, rfl⟩ := (given.assign_eq_ok_iff _ _ _).mp assigned
      exact ⟨setting, value, rest, rfl, writes, fresh, .inr ⟨rfl, rfl, isPlain⟩, readLater⟩

/-- A long name with the value that it carries spells the setting. -/
theorem exists_spells_of_longName {setting : Setting} {attached : Option ByteString}
    {arguments rest : List ByteString} (carries : Carries attached arguments value rest)
    (writes : setting.Writes value) :
    ∃ spelling, (longName setting.name ++ attached.elim [] (equalsSign :: ·)) :: arguments =
      spelling ++ rest ∧ spelling ≠ [] ∧ Spells setting spelling := by
  rcases carries with ⟨rfl, rfl⟩ | ⟨rfl, rfl, isPlain⟩
  · exact ⟨_, rfl, List.cons_ne_nil _ _, .attached writes⟩
  · refine ⟨_, ?_, List.cons_ne_nil _ _, .detached writes isPlain⟩
    rw [Option.elim_none, List.append_nil]
    rfl

/-- So does the letter for the output with the path that it carries. -/
theorem exists_spells_of_letter {letters path : ByteString} {arguments rest : List ByteString}
    (carries : Carries (Progress.attachedToLetter letters) arguments path rest)
    (nonempty : path ≠ []) :
    ∃ spelling, (dash :: outputLetter :: letters) :: arguments = spelling ++ rest ∧
      spelling ≠ [] ∧ Spells (.output path) spelling := by
  cases letters with
  | nil =>
      obtain ⟨rfl, isPlain⟩ : arguments = path :: rest ∧ IsPlain path := by
        simpa [Carries, Progress.attachedToLetter] using carries
      exact ⟨_, rfl, List.cons_ne_nil _ _, .letterDetached nonempty isPlain⟩
  | cons first letters =>
      by_cases assigned : first = equalsSign
      · subst assigned
        obtain ⟨rfl, rfl⟩ : letters = path ∧ arguments = rest := by
          simpa [Carries, Progress.attachedToLetter] using carries
        exact ⟨_, rfl, List.cons_ne_nil _ _, .letterAssigned nonempty⟩
      · obtain ⟨rfl, rfl⟩ : first :: letters = path ∧ arguments = rest := by
          simpa [Carries, Progress.attachedToLetter, assigned] using carries
        have unassigned : (first :: letters).head? ≠ some equalsSign := by
          simpa using assigned
        exact ⟨_, rfl, List.cons_ne_nil _ _, .letterAttached nonempty unassigned⟩

/-- When the reading succeeds there is nothing left, or the mark that no options
follow, or the spelling of a setting that was not given before. -/
theorem exists_spells_of_readOptions {arguments : List ByteString}
    (read : readOptions ⟨given, none⟩ arguments = .ok final) :
    (IsEnding arguments ∧ given = final) ∨
      ∃ setting spelling rest, arguments = spelling ++ rest ∧ spelling ≠ [] ∧
        Spells setting spelling ∧ given.has setting.name = false ∧
        readOptions ⟨given.set setting, none⟩ rest = .ok final := by
  cases arguments with
  | nil => exact .inl ⟨.inl rfl, Except.ok.inj read⟩
  | cons argument rest =>
      cases shape : Shape.of argument with
      | escape =>
          rw [readOptions_of_escape shape] at read
          cases rest with
          | nil =>
              rw [eq_of_shape_escape shape]
              exact .inl ⟨.inr rfl, Except.ok.inj read⟩
          | cons word others => cases read
      | long word attached =>
          rw [readOptions_of_long shape, bind_eq_ok_iff] at read
          obtain ⟨later, readFirst, readLater⟩ := read
          obtain ⟨_, rfl, taken⟩ := exists_takeUp_of_readLong readFirst
          obtain ⟨setting, value, others, rfl, writes, fresh, carries, readOthers⟩ :=
            exists_setting_of_takeUp taken readLater
          obtain ⟨spelling, spelled, nonempty, spells⟩ := exists_spells_of_longName carries writes
          rw [longName_eq] at spelled
          rw [eq_of_shape_long shape]
          exact .inr ⟨setting, spelling, others, spelled, nonempty, spells, fresh, readOthers⟩
      | short cluster =>
          rw [readOptions_of_short shape, bind_eq_ok_iff] at read
          obtain ⟨later, readFirst, readLater⟩ := read
          obtain ⟨letters, rfl, taken⟩ := exists_takeUp_of_readShort readFirst
          obtain ⟨setting, value, others, isOutput, writes, fresh, carries, readOthers⟩ :=
            exists_setting_of_takeUp taken readLater
          obtain ⟨path, rfl⟩ : ∃ path, setting = .output path := by
            cases setting <;> simp_all [Setting.name]
          obtain ⟨rfl, nonempty⟩ := writes
          obtain ⟨spelling, spelled, nonempty, spells⟩ := exists_spells_of_letter carries nonempty
          rw [eq_of_shape_short shape]
          exact .inr ⟨_, spelling, others, spelled, nonempty, spells, fresh, readOthers⟩
      | plain =>
          rw [readOptions_of_plain shape] at read
          cases read

/-! ## All settings -/

/-- Reading settings in any spellings, whatever follows, gives them all. -/
theorem readOptions_append_of_assigns {settings : List Setting}
    {spellings : List (List ByteString)} (spelled : List.Forall₂ Spells settings spellings)
    (assigns : Assigns given settings final) (rest : List ByteString) :
    readOptions ⟨given, none⟩ (spellings.flatten ++ rest) = readOptions ⟨final, none⟩ rest := by
  induction spelled generalizing given with
  | nil =>
      cases assigns
      rfl
  | cons spells _ inductionHypothesis =>
      cases assigns with
      | cons fresh later =>
          rw [List.flatten_cons, List.append_assoc, readOptions_append_of_spells fresh spells]
          exact inductionHypothesis later

/-- Reading settings in any spellings one after the other gives them all. -/
theorem readOptions_of_assigns {settings : List Setting} {spellings : List (List ByteString)}
    {ending : List ByteString} (spelled : List.Forall₂ Spells settings spellings)
    (isEnding : IsEnding ending) (assigns : Assigns given settings final) :
    readOptions ⟨given, none⟩ (spellings.flatten ++ ending) = .ok final := by
  rw [readOptions_append_of_assigns spelled assigns]
  rcases isEnding with rfl | rfl
  · rfl
  · rfl

/-- Whatever is read with success is settings in some spellings. -/
theorem exists_assigns_of_readOptions {arguments : List ByteString}
    (read : readOptions ⟨given, none⟩ arguments = .ok final) :
    ∃ settings spellings ending, arguments = spellings.flatten ++ ending ∧
      List.Forall₂ Spells settings spellings ∧ IsEnding ending ∧
      Assigns given settings final := by
  -- A spelling holds at least one argument, so what is left to read gets shorter.
  induction length : arguments.length using Nat.strongRecOn generalizing given arguments with
  | ind count inductionHypothesis =>
      rcases exists_spells_of_readOptions read with ⟨isEnding, rfl⟩ |
        ⟨setting, spelling, rest, rfl, nonempty, spells, fresh, readRest⟩
      · exact ⟨[], [], arguments, rfl, .nil, isEnding, .nil given⟩
      · have shorter : rest.length < count := by
          have positive := List.length_pos_iff.mpr nonempty
          rw [← length, List.length_append]
          omega
        obtain ⟨settings, spellings, ending, rfl, spelled, isEnding, assigns⟩ :=
          inductionHypothesis rest.length shorter readRest rfl
        exact ⟨setting :: settings, spelling :: spellings, ending, by simp, .cons spells spelled,
          isEnding, .cons fresh assigns⟩

/-- Only a name and the command that generates come before options that are read. -/
theorem parse_eq_ok_iff (arguments : List ByteString) (invocation : Invocation) :
    parse arguments = .ok invocation ↔
      ∃ program options given, arguments = program :: ByteString.ofWord "generate" :: options ∧
        readOptions {} options = .ok given ∧ given.complete = invocation := by
  constructor
  · intro parsed
    match arguments, parsed with
    | program :: command :: options, parsed =>
        rw [parse, List.drop_one, List.tail_cons] at parsed
        dsimp only at parsed
        split at parsed
        · rename_i isGenerate
          obtain ⟨given, read, completed⟩ := map_eq_ok_iff.mp parsed
          exact ⟨program, options, given, by rw [isGenerate]; rfl, read, completed⟩
        · split at parsed
          · exact nomatch parsed
          · exact nomatch parsed
  · rintro ⟨program, options, given, rfl, read, completed⟩
    exact map_eq_ok_iff.mpr ⟨given, read, completed⟩

/-- A command line is accepted exactly when it generates a fixture with some
settings, and the request then holds those settings and no others. -/
theorem parse_accepts_generates (arguments : List ByteString) :
    ((∃ invocation, parse arguments = .ok invocation) ↔
      ∃ settings, Generates arguments settings) ∧
    ∀ settings, Generates arguments settings →
      ∀ invocation, parse arguments = .ok invocation ↔ invocation.Holds settings := by
  have parsed {settings : List Setting} (generates : Generates arguments settings) :
      ∃ final, Assigns {} settings final ∧
        parse arguments = .ok final.complete := by
    obtain ⟨program, options, rfl, different, spellings, ending, rfl, spelled, isEnding⟩ :=
      generates
    obtain ⟨final, assigns⟩ := Assigns.exists_of_nodup {} different (by
      intro setting _
      cases setting <;> rfl)
    refine ⟨final, assigns, (parse_eq_ok_iff _ _).mpr ⟨program, _, final, rfl, ?_, rfl⟩⟩
    exact readOptions_of_assigns spelled isEnding assigns
  refine ⟨⟨?_, ?_⟩, ?_⟩
  · rintro ⟨invocation, accepted⟩
    obtain ⟨program, options, final, rfl, read, _⟩ := (parse_eq_ok_iff _ _).mp accepted
    obtain ⟨settings, spellings, ending, rfl, spelled, isEnding, assigns⟩ :=
      exists_assigns_of_readOptions read
    exact ⟨settings, program, _, rfl, assigns.fresh_and_nodup.2, spellings, ending, rfl, spelled,
      isEnding⟩
  · rintro ⟨settings, generates⟩
    obtain ⟨final, _, accepted⟩ := parsed generates
    exact ⟨_, accepted⟩
  · intro settings generates invocation
    obtain ⟨final, assigns, accepted⟩ := parsed generates
    rw [accepted, assigns.holds_iff, Except.ok.injEq]

/-- The four options in mixed spellings, out of the usual order and with the mark at
the end, are accepted as the settings that they spell. -/
theorem parse_accepts_generates_mixed :
    let arguments :=
      ["nodeforge", "generate", "-oout", "--seed", "+7", "--layout=expanded", "--nodes=12",
        "--"].map ByteString.ofWord
    let settings := [.output (ByteString.ofWord "out"), .seed 7, .layout .expanded, .nodes 12]
    Generates arguments settings ∧
      ∃ invocation, parse arguments = .ok invocation ∧ invocation.Holds settings := by
  intro arguments settings
  have generates : Generates arguments settings := by
    refine ⟨_, _, rfl, by decide,
      [["-oout"], ["--seed", "+7"], ["--layout=expanded"], ["--nodes=12"]].map
        (List.map ByteString.ofWord), [[dash, dash]], rfl, ?_, .inr rfl⟩
    have seven : Setting.Writes (.seed 7) (ByteString.ofWord "+7") :=
      ⟨[0x37], .inr rfl, by decide, by simp [Numeral.IsDigit], rfl⟩
    have expanded : Setting.Writes (.layout .expanded) (ByteString.ofWord "expanded") := rfl
    have twelve : Setting.Writes (.nodes 12) (ByteString.ofWord "12") :=
      ⟨[0x31, 0x32], .inl rfl, by decide, by simp [Numeral.IsDigit], rfl⟩
    refine .cons ?_ (.cons ?_ (.cons ?_ (.cons ?_ .nil)))
    · exact .letterAttached (by decide) (by decide)
    · exact .detached seven (.inr (by decide))
    · exact .attached expanded
    · exact .attached twelve
  have accepted := parse_accepts_generates arguments
  obtain ⟨invocation, parsed⟩ := accepted.1.mpr ⟨settings, generates⟩
  exact ⟨generates, invocation, parsed, (accepted.2 settings generates invocation).mp parsed⟩

end CommandLine
end GraphFixture
