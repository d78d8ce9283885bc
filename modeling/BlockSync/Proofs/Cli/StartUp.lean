import BlockSync.Cli.Session
import BlockSync.Proofs.Except
import BlockSync.Proofs.Log.Level

namespace BlockSync

/-!
# The log level of the environment

A log takes its level from the environment in two ways: by itself, or in a command, which asks the
environment first.  Either way a text that asks for a faulty number fails, so a command with such a
variable does not start.  The two ways part for the lowest level: a command sets it, and a log by
itself takes it for no level and keeps silent.
-/

namespace Log

/-- The level of the log of a command, which asks the environment before the log does. -/
def presetThreshold (environment : Option String) : Except LogLevel.NumberError LogLevel := do
  let asked ← LogLevel.parse (environment.getD "")
  thresholdOf asked environment

/-- A log by itself has the level that is asked for, unless that is none or the lowest one. -/
theorem thresholdOf_none_eq (text : String) :
    thresholdOf none (some text) =
      (LogLevel.parse text).map fun asked =>
        if asked = some .all then .critical else asked.getD .critical := by
  rw [thresholdOf, Option.getD_some]
  cases LogLevel.parse text with
  | error error =>
      rfl
  | ok asked =>
      cases asked with
      | none =>
          rfl
      | some level =>
          rw [Except.map]
          simp only [Option.some.injEq, Option.getD_some]
          rfl

/-- A log in a command has the level that is asked for, unless that is none. -/
theorem presetThreshold_eq (text : String) :
    presetThreshold (some text) = (LogLevel.parse text).map (·.getD .critical) := by
  rw [presetThreshold, Option.getD_some]
  cases parsed : LogLevel.parse text with
  | error error =>
      rfl
  | ok asked =>
      cases asked with
      | none =>
          have same : thresholdOf none (some text) = .ok .critical := by
            rw [thresholdOf_none_eq, parsed]
            rfl
          exact same
      | some level =>
          rfl

/-- A log by itself and a log in a command have the same level, unless the lowest is asked for. -/
theorem thresholdOf_none_eq_preset_iff
    {text : String} :
    thresholdOf none (some text) = presetThreshold (some text) ↔ ¬ LogLevel.IsLowest text := by
  rw [← LogLevel.parse_eq_all_iff, thresholdOf_none_eq, presetThreshold_eq]
  cases LogLevel.parse text with
  | error error =>
      exact iff_of_true rfl nofun
  | ok asked =>
      by_cases lowest : asked = some .all
      · rw [lowest]
        exact iff_of_false (by decide) fun different => different rfl
      · refine iff_of_true ?_ fun same => lowest (Except.ok.inj same)
        rw [Except.map, Except.map, if_neg lowest]

end Log

namespace Cli

variable {surroundings : Surroundings} {scan : Scan} {text : String}

/-- A command whose options go together starts exactly if its log has a level, which it keeps. -/
theorem setUp_of_verbosity
    {verbosity : Verbosity}
    (together : scan.verbosity? = some verbosity)
    (isSet : surroundings.environment.lookup levelVariable = some text) :
    (∀ error, Log.presetThreshold (some text) = .error error →
      setUp surroundings scan = .error ⟨surroundings.tree, [], .crash (.level error)⟩) ∧
    ∀ level, Log.presetThreshold (some text) = .ok level →
      ∃ stage, setUp surroundings scan = .ok stage ∧ stage.preferences.log.threshold = level := by
  have preset :
      (do let asked ← LogLevel.parse ((some text).getD ""); Log.thresholdOf asked (some text)) =
        Log.presetThreshold (some text) := by
    rfl
  constructor
  · intro error failed
    rw [setUp, together, isSet]
    dsimp only
    rw [preset, failed]
  · intro level succeeded
    rw [setUp, together, isSet]
    dsimp only
    rw [preset, succeeded]
    exact ⟨_, rfl, rfl⟩

/--
A text in the variable for the log level is read as a level or as none, unless it asks for a faulty
number.  A log by itself and a log in a command have the same level, or fail alike, unless the text
asks for the lowest level: that is taken for no level by a log by itself.  A command starts with
that level unless the number is faulty, and crashes otherwise.
-/
theorem levelVariable_handled (text : String) :
    ((∃ level?, LogLevel.parse text = .ok level?) ↔ ¬ LogLevel.IsFaulty text) ∧
    (Log.thresholdOf none (some text) = Log.presetThreshold (some text) ↔
      ¬ LogLevel.IsLowest text) ∧
    (LogLevel.IsLowest text →
      Log.thresholdOf none (some text) = .ok .critical ∧
        Log.presetThreshold (some text) = .ok .all) ∧
    ∀ (surroundings : Surroundings) (scan : Scan) (verbosity : Verbosity),
      surroundings.environment.lookup levelVariable = some text →
        scan.verbosity? = some verbosity →
        (LogLevel.IsFaulty text →
          ∃ error,
            setUp surroundings scan = .error ⟨surroundings.tree, [], .crash (.level error)⟩) ∧
        (¬ LogLevel.IsFaulty text →
          ∃ stage,
            setUp surroundings scan = .ok stage ∧
              Log.presetThreshold (some text) = .ok stage.preferences.log.threshold) := by
  have readable : (∃ level?, LogLevel.parse text = .ok level?) ↔ ¬ LogLevel.IsFaulty text := by
    rw [← LogLevel.exists_parse_eq_error_iff]
    cases LogLevel.parse text with
    | error error =>
        exact iff_of_false nofun fun fine => fine ⟨error, rfl⟩
    | ok level? =>
        exact iff_of_true ⟨level?, rfl⟩ nofun
  refine ⟨readable, Log.thresholdOf_none_eq_preset_iff, fun lowest => ?_, ?_⟩
  · have parsed := LogLevel.parse_eq_all_iff.mpr lowest
    rw [Log.thresholdOf_none_eq, Log.presetThreshold_eq, parsed]
    exact ⟨rfl, rfl⟩
  · intro surroundings scan verbosity isSet together
    obtain ⟨crashes, starts⟩ := setUp_of_verbosity together isSet
    constructor
    · intro faulty
      obtain ⟨error, failed⟩ := LogLevel.exists_parse_eq_error_iff.mpr faulty
      refine ⟨error, crashes error ?_⟩
      rw [Log.presetThreshold_eq, failed]
      rfl
    · intro fine
      obtain ⟨level?, parsed⟩ := readable.mpr fine
      have succeeded : Log.presetThreshold (some text) = .ok (level?.getD .critical) := by
        rw [Log.presetThreshold_eq, parsed]
        rfl
      obtain ⟨stage, isStage, same⟩ := starts _ succeeded
      exact ⟨stage, isStage, same ▸ succeeded⟩

/-- A session with nothing but the variable for the log level. -/
def levelSurroundings (text : String) : Surroundings :=
  ⟨.directory [], ⟨"/", []⟩, [(levelVariable, text)], false, false⟩

/-- The name of a level with blank characters around it, and a digit that is not decimal. -/
theorem levelVariable_handled_named :
    (∃ level?, LogLevel.parse " debug " = .ok level?) ∧
      Log.thresholdOf none (some " debug ") = Log.presetThreshold (some " debug ") ∧
      (∃ stage, setUp (levelSurroundings " debug ") (.ofWords []) = .ok stage) ∧
      ∃ error,
        setUp (levelSurroundings "²") (.ofWords []) =
          .error ⟨.directory [], [], .crash (.level error)⟩ := by
  obtain ⟨readable, alike, _, starts⟩ := levelVariable_handled " debug "
  obtain ⟨_, _, _, crashes⟩ := levelVariable_handled "²"
  have fine : ¬ LogLevel.IsFaulty " debug " := by
    decide +kernel
  have notLowest : ¬ LogLevel.IsLowest " debug " := by
    decide +kernel
  have faulty : LogLevel.IsFaulty "²" := by
    decide +kernel
  obtain ⟨stage, isStage, _⟩ :=
    (starts (levelSurroundings " debug ") (.ofWords []) 0 rfl rfl).2 fine
  exact
    ⟨readable.mpr fine, alike.mpr notLowest, ⟨stage, isStage⟩,
      (crashes (levelSurroundings "²") (.ofWords []) 0 rfl rfl).1 faulty⟩

/--
A digit that is not decimal is not read as no level but fails, and keeps a command from starting;
zero is the level of a log in a command, and no level for a log by itself.
-/
theorem levelVariable_mishandled :
    LogLevel.parse "²" = .error (.notDecimal "²") ∧
      setUp (levelSurroundings "²") (.ofWords []) =
        .error ⟨.directory [], [], .crash (.level (.notDecimal "²"))⟩ ∧
      Log.thresholdOf none (some "0") = .ok .critical ∧
      Log.presetThreshold (some "0") = .ok .all := by
  have failed : Log.presetThreshold (some "²") = .error (.notDecimal "²") := by
    decide +kernel
  have together : (Scan.ofWords []).verbosity? = some 0 := by
    rfl
  have isSet : (levelSurroundings "²").environment.lookup levelVariable = some "²" := by
    rfl
  have crashed := (setUp_of_verbosity together isSet).1 _ failed
  exact ⟨by decide +kernel, crashed, by decide +kernel, by decide +kernel⟩

end Cli

end BlockSync
