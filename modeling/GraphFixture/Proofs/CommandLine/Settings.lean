import GraphFixture.Proofs.Attempt
import GraphFixture.Proofs.CommandLine.Grammar

/-!
# Giving settings

A value is read as the one setting of its option that it is written for, and an
option is given once at most.  Settings that are given one after the other are
all found in what is given in the end, so their order does not matter to the
request that they complete.
-/

namespace GraphFixture
namespace CommandLine

open Attempt

/-! ## Reading values -/

theorem readNumeral_eq_ok_iff (name : OptionName) (value : ByteString) (number : UInt64) :
    readNumeral name value = .ok number ↔ Numeral.Denotes value number := by
  rw [← Numeral.read_eq_ok_iff]
  unfold readNumeral
  cases decoded : Utf8.decode? value with
  | none =>
      constructor
      · intro impossible
        exact nomatch impossible
      · intro read
        obtain ⟨text, isText⟩ := ((Numeral.read_eq_ok_iff value number).mp read).exists_decode?
        rw [decoded] at isText
        exact nomatch isText
  | some text =>
      exact mapError_eq_ok_iff

theorem readLayout_eq_ok_iff (value : ByteString) (layout : Layout) :
    readLayout value = .ok layout ↔ value = ByteString.ofWord layout.word := by
  have apart : ByteString.ofWord Layout.compact.word ≠ ByteString.ofWord Layout.expanded.word := by
    decide +kernel
  have nonempty : ByteString.ofWord layout.word ≠ [] := by
    cases layout <;> decide +kernel
  unfold readLayout
  split
  · rename_i empty
    simp [empty, nonempty.symm]
  · split
    · rename_i isCompact
      cases layout <;> simp [isCompact, apart]
    · split
      · rename_i isExpanded
        cases layout <;> simp [isExpanded, apart.symm]
      · cases layout <;> simp_all

theorem readPath_eq_ok_iff (value path : ByteString) :
    readPath value = .ok path ↔ value = path ∧ path ≠ [] := by
  unfold readPath
  split
  · rename_i empty
    simp [empty]
  · rename_i nonempty
    rw [Except.ok.injEq]
    exact ⟨fun same => ⟨same, same ▸ nonempty⟩, And.left⟩

/-- Read the value of an option. -/
def readSetting (name : OptionName) (value : ByteString) : Except Refusal Setting :=
  match name with
  | .nodes => (readNumeral .nodes value).map .nodes
  | .seed => (readNumeral .seed value).map .seed
  | .layout => (readLayout value).map .layout
  | .output => (readPath value).map .output

/-- A value is read as the setting of an option that it is written for. -/
theorem readSetting_eq_ok_iff (name : OptionName) (value : ByteString) (setting : Setting) :
    readSetting name value = .ok setting ↔ setting.name = name ∧ setting.Writes value := by
  cases name <;> cases setting <;>
    simp [readSetting, map_eq_ok_iff, readNumeral_eq_ok_iff, readLayout_eq_ok_iff,
      readPath_eq_ok_iff, Setting.name, Setting.Writes, layoutName_eq]

/-! ## Giving settings -/

namespace Given

/-- The given options with one more of them set. -/
def set (given : Given) : Setting → Given
  | .nodes count => { given with nodeCount := some count }
  | .seed word => { given with seed := some word }
  | .layout layout => { given with layout := some layout }
  | .output path => { given with output := some path }

/-- The setting of an option that was given. -/
def setting? (given : Given) : OptionName → Option Setting
  | .nodes => given.nodeCount.map .nodes
  | .seed => given.seed.map .seed
  | .layout => given.layout.map .layout
  | .output => given.output.map .output

theorem has_eq_false_iff (given : Given) (name : OptionName) :
    given.has name = false ↔ given.setting? name = none := by
  cases name <;> simp [has, setting?]

theorem has_empty (name : OptionName) : ({} : Given).has name = false := by
  cases name <;> rfl

theorem setting?_set (given : Given) (setting : Setting) (name : OptionName) :
    (given.set setting).setting? name =
      if setting.name = name then some setting else given.setting? name := by
  cases setting <;> cases name <;> simp [set, setting?, Setting.name]

theorem has_set_eq_false_iff (given : Given) (setting : Setting) (name : OptionName) :
    (given.set setting).has name = false ↔ setting.name ≠ name ∧ given.has name = false := by
  rw [has_eq_false_iff, has_eq_false_iff, setting?_set]
  split <;> simp_all

theorem assign_of_has_eq_false {given : Given} {name : OptionName}
    (fresh : given.has name = false) (value : ByteString) :
    given.assign name value = (readSetting name value).map given.set := by
  have map_map {Value : Type} (reading : Except Refusal Value) (view : Value → Setting) :
      (reading.map view).map given.set = reading.map fun value => given.set (view value) := by
    cases reading <;> rfl
  unfold assign
  rw [fresh]
  cases name <;> simp only [readSetting, map_map] <;> rfl

/-- An option is given exactly when it was not given before and the value is
written for it. -/
theorem assign_eq_ok_iff (given next : Given) (name : OptionName) (value : ByteString) :
    given.assign name value = .ok next ↔ given.has name = false ∧
      ∃ setting, setting.name = name ∧ setting.Writes value ∧ given.set setting = next := by
  cases fresh : given.has name with
  | true => simp [assign, fresh]
  | false =>
      rw [assign_of_has_eq_false fresh, map_eq_ok_iff]
      simp only [readSetting_eq_ok_iff, and_assoc, true_and]

end Given

/-- Settings are given one after the other, each to an option that was not given
before. -/
inductive Assigns : Given → List Setting → Given → Prop
  | nil (given : Given) : Assigns given [] given
  | cons {given final : Given} {setting : Setting} {settings : List Setting}
      (fresh : given.has setting.name = false)
      (later : Assigns (given.set setting) settings final) :
      Assigns given (setting :: settings) final

namespace Assigns

/-- Settings of different options can be given when none was given before. -/
theorem exists_of_nodup (given : Given) {settings : List Setting}
    (different : (settings.map Setting.name).Nodup)
    (fresh : ∀ setting ∈ settings, given.has setting.name = false) :
    ∃ final, Assigns given settings final := by
  induction settings generalizing given with
  | nil => exact ⟨given, .nil given⟩
  | cons setting settings inductionHypothesis =>
      rw [List.map_cons, List.nodup_cons] at different
      rw [List.forall_mem_cons] at fresh
      have freshLater : ∀ other ∈ settings, (given.set setting).has other.name = false := by
        intro other member
        rw [Given.has_set_eq_false_iff]
        refine ⟨fun same => different.1 ?_, fresh.2 other member⟩
        rw [same]
        exact List.mem_map_of_mem member
      obtain ⟨final, assigns⟩ := inductionHypothesis (given.set setting) different.2 freshLater
      exact ⟨final, .cons fresh.1 assigns⟩

theorem fresh_and_nodup {given final : Given} {settings : List Setting}
    (assigns : Assigns given settings final) :
    (∀ setting ∈ settings, given.has setting.name = false) ∧
      (settings.map Setting.name).Nodup := by
  induction assigns with
  | nil given => simp
  | cons fresh later inductionHypothesis =>
      simp only [Given.has_set_eq_false_iff] at inductionHypothesis
      obtain ⟨freshLater, different⟩ := inductionHypothesis
      rw [List.forall_mem_cons, List.map_cons, List.nodup_cons]
      refine ⟨⟨fresh, fun other member => (freshLater other member).2⟩, ?_, different⟩
      intro repeated
      obtain ⟨other, member, same⟩ := List.mem_map.mp repeated
      exact (freshLater other member).1 same.symm

/-- What is given in the end is what was given before and the settings. -/
theorem setting?_eq_some_iff {given final : Given} {settings : List Setting}
    (assigns : Assigns given settings final) (setting : Setting) :
    final.setting? setting.name = some setting ↔
      given.setting? setting.name = some setting ∨ setting ∈ settings := by
  induction assigns with
  | nil given => simp
  | cons fresh later inductionHypothesis =>
      rename_i given final first settings
      rw [inductionHypothesis, Given.setting?_set, List.mem_cons]
      rw [Given.has_eq_false_iff] at fresh
      by_cases sameName : first.name = setting.name
      · rw [if_pos sameName, ← sameName, fresh, Option.some.injEq, eq_comm]
        simp
      · have different : setting ≠ first := fun same => sameName (congrArg Setting.name same).symm
        rw [if_neg sameName]
        simp [different]

end Assigns

theorem getD_eq_iff {Value : Type} (given : Option Value) (standard value : Value) :
    given.getD standard = value ↔ (∀ own, given = some own → value = own) ∧
      ((∀ own, given ≠ some own) → value = standard) := by
  cases given with
  | none => simp [eq_comm]
  | some own => simp [eq_comm]

theorem eq_iff_of_given {Value : Type} (given value : Option Value) :
    given = value ↔ (∀ own, given = some own → value = some own) ∧
      ((∀ own, given ≠ some own) → value = none) := by
  cases given with
  | none => simp [eq_comm]
  | some own => simp [eq_comm]

/-- A request holds settings that were given to nothing before exactly when it
completes what was given in the end. -/
theorem Assigns.holds_iff {settings : List Setting} {final : Given}
    (assigns : Assigns {} settings final) (invocation : Invocation) :
    invocation.Holds settings ↔ final.complete = invocation := by
  have member (setting : Setting) :
      setting ∈ settings ↔ final.setting? setting.name = some setting := by
    rw [assigns.setting?_eq_some_iff]
    cases setting <;> simp [Given.setting?, Setting.name]
  have nodes (count : UInt64) : .nodes count ∈ settings ↔ final.nodeCount = some count := by
    simp [member, Given.setting?, Setting.name]
  have seed (word : UInt64) : .seed word ∈ settings ↔ final.seed = some word := by
    simp [member, Given.setting?, Setting.name]
  have layout (layout : Layout) : .layout layout ∈ settings ↔ final.layout = some layout := by
    simp [member, Given.setting?, Setting.name]
  have output (path : ByteString) : .output path ∈ settings ↔ final.output = some path := by
    simp [member, Given.setting?, Setting.name]
  have completed : final.complete = invocation ↔
      final.nodeCount.getD 300 = invocation.nodeCount ∧ final.seed = invocation.seed ∧
        final.layout.getD .compact = invocation.layout ∧ final.output = invocation.output := by
    cases invocation
    simp [Given.complete, Recipe.standardNodeCount, Layout.standard]
  rw [completed, getD_eq_iff, eq_iff_of_given final.seed, getD_eq_iff,
    eq_iff_of_given final.output]
  simp only [← nodes, ← seed, ← layout, ← output, ne_eq]
  constructor
  · intro holds
    exact ⟨⟨holds.nodeCount, holds.standardNodeCount⟩, ⟨holds.seed, holds.noSeed⟩,
      ⟨holds.layout, holds.standardLayout⟩, holds.output, holds.noOutput⟩
  · rintro ⟨⟨ownNodes, noNodes⟩, ⟨ownSeed, noSeed⟩, ⟨ownLayout, noLayout⟩, ownOutput, noOutput⟩
    exact ⟨ownNodes, noNodes, ownSeed, noSeed, ownLayout, noLayout, ownOutput, noOutput⟩

end CommandLine
end GraphFixture
