import GraphFixture.Proofs.Generator.Completion
import GraphFixture.Proofs.Output.Destination
import GraphFixture.Run

/-!
# What a run does

A run either does all that it was asked for or changes nothing, with one
exception: a file that was created and has no room for the whole fixture keeps
the first bytes.  A run leaves with one of three exit codes: two for a refused
command line, zero once the log is set up and help was given or a fixture was
emitted, one otherwise.  A fixture is the one that the seed stands for, and all
of it is in the file that was named or behind what the standard output had
received.
-/

namespace GraphFixture

/-- The setting of the log format is missing or names a format. -/
def Environment.LogReady (environment : Environment) : Prop :=
  ∃ format, Log.Format.ofSetting environment.logSettings.format = .ok format

namespace CommandLine.Invocation

/-- The seed of a request is its own, or else the word of entropy. -/
def Settles (invocation : Invocation) (entropy : Except String UInt64) (seed : UInt64) : Prop :=
  invocation.seed = some seed ∨ invocation.seed = none ∧ entropy = .ok seed

/-- The bytes that a request makes of a seed: the fixture that is sampled with the
generator of the seed, in the layout of the request. -/
def rendering (invocation : Invocation) (seed : UInt64) : Except FixtureError ByteString :=
  invocation.recipe.build.bind fun generator =>
    (generator.sampleWith Xoshiro.stateCount (Xoshiro.ofSeed seed)).map fun sampled =>
      Utf8.encode (sampled.1.render invocation.layout)

/-- A request can be carried out: it is for a fixture that exists, and a file that it
names can be created and written. -/
structure Feasible (invocation : Invocation) (environment : Environment) : Prop where
  positive : 1 ≤ invocation.nodeCount
  seeded : ∃ seed, invocation.Settles environment.entropy seed
  creatable : ∀ path, invocation.output = some path →
    ∃ opened, environment.files.create path = .ok opened
  writable : ∀ path seed bytes, invocation.output = some path →
    invocation.Settles environment.entropy seed → invocation.rendering seed = .ok bytes →
      environment.files.HasRoom path bytes

/-- Bytes are where a request wants them, and nothing else has changed. -/
def Delivered (invocation : Invocation) (environment : Environment) (outcome : Outcome)
    (bytes : ByteString) : Prop :=
  match invocation.output with
  | none =>
      outcome.stdout.received = environment.stdout.received ++ bytes ∧
        outcome.files = environment.files
  | some path =>
      outcome.stdout = environment.stdout ∧
        ∃ location, environment.files.resolve path = .ok location ∧
          environment.files.Rewritten outcome.files location bytes

/-- A request names a file that can be created, but there is no room in it for the
fixture. -/
def Overflows (invocation : Invocation) (environment : Environment) : Prop :=
  ∃ path opened seed bytes, invocation.output = some path ∧
    environment.files.create path = .ok opened ∧
    invocation.Settles environment.entropy seed ∧ invocation.rendering seed = .ok bytes ∧
    ¬ environment.files.HasRoom path bytes

/-- The first bytes are in the file that a request names, as many as there was room
for, and nothing else has changed. -/
def CutShort (invocation : Invocation) (environment : Environment) (outcome : Outcome) : Prop :=
  outcome.stdout = environment.stdout ∧
    ∃ path seed bytes location, invocation.output = some path ∧
      invocation.Settles environment.entropy seed ∧ invocation.rendering seed = .ok bytes ∧
      environment.files.resolve path = .ok location ∧
      environment.files.Rewritten outcome.files location
        (Limit.clip (environment.files.storageAt location).room bytes)

theorem Feasible.not_overflows {invocation : Invocation} {environment : Environment}
    (feasible : invocation.Feasible environment) : ¬ invocation.Overflows environment := by
  rintro ⟨path, _, seed, bytes, toPath, _, settled, rendered, crowded⟩
  exact crowded (feasible.writable path seed bytes toPath settled rendered)

/-- Nothing is rendered for a request without nodes. -/
theorem positive_of_rendering {invocation : Invocation} {seed : UInt64} {bytes : ByteString}
    (rendered : invocation.rendering seed = .ok bytes) : 1 ≤ invocation.nodeCount := by
  rw [Bounded.one_le_iff_ne_zero]
  intro isZero
  simp [rendering, Recipe.build, recipe, isZero, Except.bind] at rendered

end CommandLine.Invocation

/-- A run has changed neither a file nor the standard output. -/
structure Outcome.Untouched (outcome : Outcome) (environment : Environment) : Prop where
  files : outcome.files = environment.files
  stdout : outcome.stdout = environment.stdout

namespace Run

variable {arguments : List ByteString} {environment : Environment}

/-! ## Runs without a fixture -/

/-- Without a text for the standard output, leaving changes nothing. -/
theorem untouched_leave (accepting : environment.stdout.AcceptsAll) (exitCode : Nat)
    (diagnostics : List Char) :
    (carryOut environment (.leave exitCode [] diagnostics)).Untouched environment where
  files := rfl
  stdout := by
    change (environment.stdout.deliver []).2 = environment.stdout
    rw [Stream.deliver_of_eq_ok (accepting []), Stream.receive_nil]

theorem run_of_not_logReady (arguments : List ByteString)
    (accepting : environment.stdout.AcceptsAll)
    (unready : ¬ environment.LogReady) :
    (run arguments environment).exitCode = 1 ∧
      (run arguments environment).Untouched environment := by
  cases format : Log.Format.ofSetting environment.logSettings.format with
  | ok format' => exact absurd ⟨format', format⟩ unready
  | error error =>
      have planned : plan arguments environment.logSettings environment.entropy =
          abandon error := by
        simp only [plan, Log.Setup.ofSettings, format, Except.map]
      rw [run, planned]
      exact ⟨rfl, untouched_leave accepting _ _⟩

theorem plan_of_logReady (arguments : List ByteString) (ready : environment.LogReady) :
    ∃ setup, plan arguments environment.logSettings environment.entropy =
      match CommandLine.parse arguments with
      | .error refusal => decline (CommandLine.programName arguments) refusal
      | .ok invocation => prepare setup invocation environment.entropy := by
  obtain ⟨format, named⟩ := ready
  refine ⟨⟨format, Log.Filter.ofSetting environment.logSettings.filter⟩, ?_⟩
  cases parsed : CommandLine.parse arguments <;>
    simp only [plan, Log.Setup.ofSettings, named, Except.map, parsed]

theorem run_of_help (accepting : environment.stdout.AcceptsAll) (ready : environment.LogReady)
    {topic : CommandLine.HelpTopic} (asked : CommandLine.parse arguments = .error (.help topic)) :
    (run arguments environment).exitCode = 0 ∧
      (run arguments environment).files = environment.files ∧
      (run arguments environment).stdout.received = environment.stdout.received ++
        Utf8.encode (topic.text .stream (CommandLine.programName arguments)).toList := by
  obtain ⟨setup, planned⟩ := plan_of_logReady arguments ready
  rw [run, planned, asked]
  refine ⟨rfl, rfl, ?_⟩
  change (environment.stdout.deliver _).2.received = _
  rw [Stream.deliver_of_eq_ok (accepting _)]
  rfl

theorem run_of_refusal (accepting : environment.stdout.AcceptsAll) (ready : environment.LogReady)
    {refusal : CommandLine.Refusal} (refused : CommandLine.parse arguments = .error refusal)
    (noHelp : refusal.isHelp = false) :
    (run arguments environment).exitCode = 2 ∧
      (run arguments environment).Untouched environment := by
  obtain ⟨setup, planned⟩ := plan_of_logReady arguments ready
  have declined : decline (CommandLine.programName arguments) refusal = .leave 2 []
      (refusal.text .stream (CommandLine.programName arguments)).toList := by
    simp [decline, CommandLine.Refusal.exitCode, noHelp]
  rw [run, planned, refused]
  dsimp only
  rw [declined]
  exact ⟨rfl, untouched_leave accepting _ _⟩

/-! ## Runs that were asked for a fixture -/

variable {invocation : CommandLine.Invocation}

/-- A request without nodes or without a seed comes to no fixture, for a reason
that has a code. -/
theorem exists_error_of_not_seeded
    (lacking : ¬ (1 ≤ invocation.nodeCount ∧
      ∃ seed, invocation.Settles environment.entropy seed)) :
    ∃ error code, (Generation.run invocation.recipe environment.entropy).result = .error error ∧
      error.code? = some code := by
  rw [Generation.result_run]
  by_cases positive : invocation.nodeCount = 0
  · refine ⟨.invalidNodeCount 0, "INVALID_NODE_COUNT", ?_, rfl⟩
    simp [Recipe.build, CommandLine.Invocation.recipe, positive, Except.bind]
  · have built : invocation.recipe.build =
        .ok ⟨invocation.nodeCount, invocation.seed, positive⟩ :=
      Recipe.build_of_ne_zero positive
    have unseeded : ¬ ∃ seed, invocation.Settles environment.entropy seed :=
      fun seeded => lacking ⟨Bounded.one_le_iff_ne_zero.mpr positive, seeded⟩
    cases own : invocation.seed with
    | some seed => exact absurd ⟨seed, .inl own⟩ unseeded
    | none =>
        cases drawn : environment.entropy with
        | ok seed => exact absurd ⟨seed, .inr ⟨own, drawn⟩⟩ unseeded
        | error cause =>
            refine ⟨.entropyUnavailable cause, "ENTROPY_UNAVAILABLE", ?_, rfl⟩
            rw [built]
            simp only [Except.bind, Generator.sample, Generator.chooseSeed, own]
            rfl

/-- A request with nodes and a seed comes to the fixture that the seed stands for. -/
theorem exists_fixture_of_settles (positive : 1 ≤ invocation.nodeCount)
    (fits : Fixture.fits invocation.nodeCount = true) {seed : UInt64}
    (settled : invocation.Settles environment.entropy seed) :
    ∃ fixture,
      (Generation.run invocation.recipe environment.entropy).result = .ok fixture ∧
      invocation.rendering seed = .ok (invocation.job fixture).bytes := by
  have nonzero : invocation.nodeCount ≠ 0 := Bounded.one_le_iff_ne_zero.mp positive
  have built : invocation.recipe.build =
      .ok ⟨invocation.nodeCount, invocation.seed, nonzero⟩ :=
    Recipe.build_of_ne_zero nonzero
  obtain ⟨fixture, sampled, rest, seeded, drawn, sameBlocks⟩ :=
    Generator.exists_sampleSeeded ⟨invocation.nodeCount, invocation.seed, nonzero⟩ fits seed
  refine ⟨fixture, ?_, ?_⟩
  · have chosen : Generator.chooseSeed ⟨invocation.nodeCount, invocation.seed, nonzero⟩
        environment.entropy = .ok seed := by
      rcases settled with own | ⟨none, drawn⟩
      · simp [Generator.chooseSeed, own]
      · simp only [Generator.chooseSeed, none, drawn]
        rfl
    rw [Generation.result_run, built]
    simp only [Except.bind, Generator.sample, chosen, seeded]
  · rw [CommandLine.Invocation.rendering, built]
    simp only [Except.bind, drawn, Except.map, Job.bytes, CommandLine.Invocation.job,
      Fixture.render, sameBlocks]

theorem prepare_of_error {setup : Log.Setup} {error : FixtureError}
    (result : (Generation.run invocation.recipe environment.entropy).result = .error error) :
    prepare setup invocation environment.entropy =
      giveUp setup error (Generation.run invocation.recipe environment.entropy).events := by
  simp only [prepare, result]

theorem prepare_of_ok {setup : Log.Setup} {fixture : Fixture}
    (result : (Generation.run invocation.recipe environment.entropy).result = .ok fixture) :
    prepare setup invocation environment.entropy = .emit setup (invocation.job fixture)
      (Generation.run invocation.recipe environment.entropy).events := by
  simp only [prepare, result]

/-- A request for a fixture that exists comes down to emitting the fixture. -/
theorem exists_run_eq_emission (ready : environment.LogReady)
    (parsed : CommandLine.parse arguments = .ok invocation)
    (fits : Fixture.fits invocation.nodeCount = true) (positive : 1 ≤ invocation.nodeCount)
    {seed : UInt64} (settled : invocation.Settles environment.entropy seed) :
    ∃ job, job.output = invocation.output ∧ invocation.rendering seed = .ok job.bytes ∧
      (run arguments environment).exitCode =
        exitCodeOf (Emission.run job (destinations environment)).result ∧
      (run arguments environment).stdout =
        standardOutput job (Emission.run job (destinations environment)).destinations ∧
      (run arguments environment).files =
        (Emission.run job (destinations environment)).destinations.files := by
  obtain ⟨setup, planned⟩ := plan_of_logReady arguments ready
  obtain ⟨fixture, result, rendered⟩ := exists_fixture_of_settles positive fits settled
  rw [run, planned, parsed]
  dsimp only
  rw [prepare_of_ok result]
  exact ⟨invocation.job fixture, rfl, rendered, rfl, rfl, rfl⟩

/-- With a path, the fixture is emitted to a file and the standard output is left
alone. -/
theorem exists_inFile (ready : environment.LogReady)
    (parsed : CommandLine.parse arguments = .ok invocation)
    (fits : Fixture.fits invocation.nodeCount = true) (positive : 1 ≤ invocation.nodeCount)
    {seed : UInt64} (settled : invocation.Settles environment.entropy seed)
    {path : ByteString} (toPath : invocation.output = some path)
    (ordinary : environment.files.Ordinary path) :
    ∃ job emission, invocation.rendering seed = .ok job.bytes ∧
      Emission.InFile job path (destinations environment) emission ∧
      (run arguments environment).exitCode = exitCodeOf emission.result ∧
      (run arguments environment).stdout = environment.stdout ∧
      (run arguments environment).files = emission.destinations.files := by
  obtain ⟨job, sameOutput, rendered, exitCode, stdout, files⟩ :=
    exists_run_eq_emission ready parsed fits positive settled
  rw [toPath] at sameOutput
  have inFile : Emission.InFile job path (destinations environment)
      (Emission.run job (destinations environment)) :=
    Emission.inFile_run sameOutput ordinary
  refine ⟨job, _, rendered, inFile, exitCode, stdout.trans ?_, files⟩
  rw [standardOutput, if_neg (by simp [sameOutput]), inFile.elsewhere]
  rfl

theorem run_of_feasible (accepting : environment.stdout.AcceptsAll)
    (ready : environment.LogReady) (parsed : CommandLine.parse arguments = .ok invocation)
    (fits : Fixture.fits invocation.nodeCount = true)
    (ordinary : ∀ path, invocation.output = some path → environment.files.Ordinary path)
    (feasible : invocation.Feasible environment) :
    (run arguments environment).exitCode = 0 ∧
      ∃ seed bytes, invocation.Settles environment.entropy seed ∧
        invocation.rendering seed = .ok bytes ∧
        invocation.Delivered environment (run arguments environment) bytes := by
  obtain ⟨seed, settled⟩ := feasible.seeded
  simp only [CommandLine.Invocation.Delivered]
  cases toPath : invocation.output with
  | none =>
      obtain ⟨job, sameOutput, rendered, exitCode, stdout, files⟩ :=
        exists_run_eq_emission ready parsed fits feasible.positive settled
      rw [toPath] at sameOutput
      have emitted := Emission.run_of_acceptsAll job (destinations environment) sameOutput accepting
      rw [exitCode, stdout, files, emitted]
      refine ⟨rfl, seed, _, settled, rendered, ?_, rfl⟩
      simp [standardOutput, sameOutput, destinations]
  | some path =>
      obtain ⟨job, emission, rendered, inFile, exitCode, stdout, files⟩ :=
        exists_inFile ready parsed fits feasible.positive settled toPath (ordinary path toPath)
      have succeeded := inFile.succeeded_iff.mpr ⟨feasible.creatable path toPath,
        feasible.writable path seed _ toPath settled rendered⟩
      rw [exitCode, files, succeeded]
      exact ⟨rfl, seed, _, settled, rendered, stdout, inFile.whole succeeded⟩

/-- A file without room for the fixture keeps the first bytes. -/
theorem run_of_overflows (ready : environment.LogReady)
    (parsed : CommandLine.parse arguments = .ok invocation)
    (fits : Fixture.fits invocation.nodeCount = true)
    (ordinary : ∀ path, invocation.output = some path → environment.files.Ordinary path)
    (overflows : invocation.Overflows environment) :
    (run arguments environment).exitCode = 1 ∧
      invocation.CutShort environment (run arguments environment) := by
  obtain ⟨path, opened, seed, bytes, toPath, created, settled, rendered, crowded⟩ := overflows
  have positive := CommandLine.Invocation.positive_of_rendering rendered
  obtain ⟨job, emission, renderedJob, inFile, exitCode, stdout, files⟩ :=
    exists_inFile ready parsed fits positive settled toPath (ordinary path toPath)
  obtain rfl := Except.ok.inj (rendered.symm.trans renderedJob)
  obtain ⟨location, resolved, refused, rewritten⟩ := inFile.cut opened created
    fun succeeded => crowded (inFile.succeeded_iff.mp succeeded).2
  rw [exitCode, refused]
  rw [← files] at rewritten
  exact ⟨rfl, stdout, path, seed, _, location, toPath, settled, rendered, resolved, rewritten⟩

/-- A file that cannot be created is left alone. -/
theorem run_of_create_error (ready : environment.LogReady)
    (parsed : CommandLine.parse arguments = .ok invocation)
    (fits : Fixture.fits invocation.nodeCount = true) (positive : 1 ≤ invocation.nodeCount)
    {seed : UInt64} (settled : invocation.Settles environment.entropy seed)
    {path : ByteString} (toPath : invocation.output = some path)
    (ordinary : environment.files.Ordinary path) {cause : StreamError}
    (refused : environment.files.create path = .error cause) :
    (run arguments environment).exitCode = 1 ∧
      (run arguments environment).Untouched environment := by
  obtain ⟨job, emission, _, inFile, exitCode, stdout, files⟩ :=
    exists_inFile ready parsed fits positive settled toPath ordinary
  obtain ⟨failed, unchanged⟩ := inFile.refused cause refused
  rw [unchanged] at files
  rw [exitCode, failed]
  exact ⟨rfl, files, stdout⟩

/-- Without nodes or a seed nothing is emitted. -/
theorem run_of_not_seeded (accepting : environment.stdout.AcceptsAll)
    (ready : environment.LogReady) (parsed : CommandLine.parse arguments = .ok invocation)
    (lacking : ¬ (1 ≤ invocation.nodeCount ∧
      ∃ seed, invocation.Settles environment.entropy seed)) :
    (run arguments environment).exitCode = 1 ∧
      (run arguments environment).Untouched environment := by
  obtain ⟨setup, planned⟩ := plan_of_logReady arguments ready
  obtain ⟨error, code, result, coded⟩ := exists_error_of_not_seeded lacking
  rw [run, planned, parsed]
  dsimp only
  rw [prepare_of_error result, giveUp, coded]
  exact ⟨rfl, untouched_leave accepting _ _⟩

theorem run_of_infeasible (accepting : environment.stdout.AcceptsAll)
    (ready : environment.LogReady) (parsed : CommandLine.parse arguments = .ok invocation)
    (fits : Fixture.fits invocation.nodeCount = true)
    (ordinary : ∀ path, invocation.output = some path → environment.files.Ordinary path)
    (infeasible : ¬ invocation.Feasible environment)
    (roomy : ¬ invocation.Overflows environment) :
    (run arguments environment).exitCode = 1 ∧
      (run arguments environment).Untouched environment := by
  by_cases sampled : 1 ≤ invocation.nodeCount ∧
      ∃ seed, invocation.Settles environment.entropy seed
  · obtain ⟨positive, seed, settled⟩ := sampled
    -- There is a fixture and room for it, so it is the file that cannot be created.
    obtain ⟨path, toPath, cause, refused⟩ : ∃ path, invocation.output = some path ∧
        ∃ cause, environment.files.create path = .error cause := by
      by_contra creatable
      have opens (path : ByteString) (toPath : invocation.output = some path) :
          ∃ opened, environment.files.create path = .ok opened := by
        cases created : environment.files.create path with
        | ok opened => exact ⟨opened, rfl⟩
        | error cause => exact absurd ⟨path, toPath, cause, created⟩ creatable
      refine infeasible ⟨positive, ⟨seed, settled⟩, opens, ?_⟩
      intro path otherSeed bytes toPath settledOther rendered
      obtain ⟨opened, created⟩ := opens path toPath
      by_contra crowded
      exact roomy ⟨path, opened, otherSeed, bytes, toPath, created, settledOther, rendered, crowded⟩
    exact run_of_create_error ready parsed fits positive settled toPath (ordinary path toPath)
      refused
  · exact run_of_not_seeded accepting ready parsed sampled

end Run

/-! ## All runs -/

/-- What holds of every run whose standard output accepts all bytes. -/
structure Conducted (arguments : List ByteString) (environment : Environment)
    (outcome : Outcome) : Prop where
  refused_iff : outcome.exitCode = 2 ↔ environment.LogReady ∧
    ∃ refusal, CommandLine.parse arguments = .error refusal ∧ refusal.isHelp = false
  succeeded_iff : outcome.exitCode = 0 ↔ environment.LogReady ∧
    ((∃ topic, CommandLine.parse arguments = .error (.help topic)) ∨
      ∃ invocation, CommandLine.parse arguments = .ok invocation ∧
        invocation.Feasible environment)
  failed : outcome.exitCode ≠ 2 → outcome.exitCode ≠ 0 → outcome.exitCode = 1
  delivered : ∀ invocation, CommandLine.parse arguments = .ok invocation →
    outcome.exitCode = 0 →
      ∃ seed bytes, invocation.Settles environment.entropy seed ∧
        invocation.rendering seed = .ok bytes ∧
        invocation.Delivered environment outcome bytes
  helped : ∀ topic, CommandLine.parse arguments = .error (.help topic) →
    outcome.exitCode = 0 →
      outcome.files = environment.files ∧
        outcome.stdout.received = environment.stdout.received ++
          Utf8.encode (topic.text .stream (CommandLine.programName arguments)).toList
  /-- A run that fails has changed nothing, unless its file has no room for the fixture. -/
  untouched : outcome.exitCode ≠ 0 →
    (environment.LogReady → ∀ invocation, CommandLine.parse arguments = .ok invocation →
      ¬ invocation.Overflows environment) →
    outcome.Untouched environment
  cutShort : environment.LogReady → ∀ invocation, CommandLine.parse arguments = .ok invocation →
    invocation.Overflows environment → invocation.CutShort environment outcome

/-- Every run whose fixture fits and whose path leads to no device does all that
it was asked for or fails without a trace but for a file without enough room, and
its exit code tells which. -/
theorem run_conducted (arguments : List ByteString) (environment : Environment)
    (capacity : ∀ invocation, CommandLine.parse arguments = .ok invocation →
      Fixture.fits invocation.nodeCount = true)
    (ordinary : ∀ invocation path, CommandLine.parse arguments = .ok invocation →
      invocation.output = some path → environment.files.Ordinary path)
    (accepting : environment.stdout.AcceptsAll) :
    Conducted arguments environment (run arguments environment) := by
  by_cases ready : environment.LogReady
  · cases parsed : CommandLine.parse arguments with
    | error refusal =>
        cases help : refusal.isHelp with
        | true =>
            obtain ⟨topic, rfl⟩ : ∃ topic, refusal = .help topic := by
              cases refusal <;> simp_all [CommandLine.Refusal.isHelp]
            obtain ⟨exitCode, files, stdout⟩ := Run.run_of_help accepting ready parsed
            constructor <;> simp_all [CommandLine.Refusal.isHelp]
        | false =>
            obtain ⟨exitCode, untouched⟩ := Run.run_of_refusal accepting ready parsed help
            constructor <;> simp_all
            rintro topic rfl
            simp [CommandLine.Refusal.isHelp] at help
    | ok invocation =>
        have fits := capacity invocation parsed
        have leadsToFile := fun path => ordinary invocation path parsed
        by_cases feasible : invocation.Feasible environment
        · obtain ⟨exitCode, delivered⟩ :=
            Run.run_of_feasible accepting ready parsed fits leadsToFile feasible
          have roomy := feasible.not_overflows
          constructor <;> simp_all
        · by_cases overflows : invocation.Overflows environment
          · obtain ⟨exitCode, cutShort⟩ :=
              Run.run_of_overflows ready parsed fits leadsToFile overflows
            constructor <;> simp_all
          · obtain ⟨exitCode, untouched⟩ :=
              Run.run_of_infeasible accepting ready parsed fits leadsToFile feasible overflows
            constructor <;> simp_all
  · obtain ⟨exitCode, untouched⟩ := Run.run_of_not_logReady arguments accepting ready
    constructor <;> simp_all

/-- A run with a seed and a new file as output leaves the rendering of the seed in
the file, or the first ten bytes of it where there is room for these alone. -/
theorem run_conducted_seeded_file :
    let out := ByteString.ofWord "out"
    let arguments :=
      ["nodeforge", "generate", "--nodes", "1", "--seed=7", "-oout"].map ByteString.ofWord
    let invocation : CommandLine.Invocation :=
      { nodeCount := 1, seed := some 7, output := some out }
    let environment (room : Option Nat) : Environment :=
      { entropy := .error "none", stdout := {},
        files := { entries := [], storage := [([], { room := room })], workingDirectory := [] } }
    (run arguments (environment none)).exitCode = 0 ∧
      (∃ bytes, invocation.rendering 7 = .ok bytes ∧
        (run arguments (environment none)).files.lookup [out] = some (.file bytes)) ∧
      (run arguments (environment (some 10))).exitCode = 1 ∧
      (run arguments (environment (some 10))).files.lookup [out] =
        some (.file (ByteString.ofWord "node Node0")) := by
  intro out arguments invocation environment
  have parsed : CommandLine.parse arguments = .ok invocation := by rfl
  have resolved (room : Option Nat) : (environment room).files.resolve out = .ok [out] := by rfl
  have conducted (room : Option Nat) :
      Conducted arguments (environment room) (run arguments (environment room)) :=
    run_conducted arguments (environment room)
      (by
        rintro other accepted
        rw [← Except.ok.inj (parsed.symm.trans accepted)]
        decide)
      (by
        rintro other path accepted toPath location device found
        rw [← Except.ok.inj (parsed.symm.trans accepted)] at toPath
        rw [← Option.some.inj toPath, resolved] at found
        rw [← Except.ok.inj found]
        exact fun absent => nomatch absent)
      Stream.acceptsAll_default
  have succeeded : (run arguments (environment none)).exitCode = 0 :=
    (conducted none).succeeded_iff.mpr ⟨⟨.human, rfl⟩, .inr ⟨_, parsed,
      { positive := by decide
        seeded := ⟨7, .inl rfl⟩
        creatable := by
          rintro path toPath
          rw [← Option.some.inj toPath]
          exact ⟨_, rfl⟩
        writable := fun _ _ _ _ _ _ _ _ => Limit.admits_none _ }⟩⟩
  obtain ⟨seed, bytes, settled, rendered, _, location, found, rewritten⟩ :=
    (conducted none).delivered _ parsed succeeded
  obtain rfl : 7 = seed := Option.some.inj (settled.resolve_right (by simp [invocation]))
  obtain rfl : [out] = location := Except.ok.inj ((resolved none).symm.trans found)
  have firstBytes : (invocation.rendering 7).map (Limit.clip (some 10)) =
      .ok (ByteString.ofWord "node Node0") := by
    decide +kernel
  have tooLong : (invocation.rendering 7).map (fun bytes => decide (Limit.Admits (some 10) bytes)) =
      .ok false := by
    decide +kernel
  rw [rendered] at firstBytes tooLong
  have overflows : invocation.Overflows (environment (some 10)) :=
    ⟨out, _, 7, bytes, rfl, rfl, .inl rfl, rendered, fun hasRoom =>
      of_decide_eq_false (Except.ok.inj tooLong) (hasRoom [out] (resolved _))⟩
  have exitCode : (run arguments (environment (some 10))).exitCode = 1 := by
    apply (conducted (some 10)).failed
    · intro refused
      obtain ⟨_, refusal, notParsed, _⟩ := (conducted (some 10)).refused_iff.mp refused
      exact nomatch parsed.symm.trans notParsed
    · intro succeeded
      obtain ⟨_, ⟨topic, notParsed⟩ | ⟨other, accepted, feasible⟩⟩ :=
        (conducted (some 10)).succeeded_iff.mp succeeded
      · exact nomatch parsed.symm.trans notParsed
      · obtain rfl := Except.ok.inj (parsed.symm.trans accepted)
        exact feasible.not_overflows overflows
  obtain ⟨_, path, seed, other, location, toPath, settledCut, renderedCut, found, cut⟩ :=
    (conducted (some 10)).cutShort ⟨.human, rfl⟩ invocation parsed overflows
  obtain rfl : out = path := Option.some.inj toPath
  obtain rfl : 7 = seed := Option.some.inj (settledCut.resolve_right (by simp [invocation]))
  obtain rfl := Except.ok.inj (rendered.symm.trans renderedCut)
  obtain rfl : [out] = location := Except.ok.inj ((resolved _).symm.trans found)
  refine ⟨succeeded, ⟨bytes, rendered, rewritten.lookup_self⟩, exitCode, ?_⟩
  rw [← Except.ok.inj firstBytes]
  exact cut.lookup_self

end GraphFixture
