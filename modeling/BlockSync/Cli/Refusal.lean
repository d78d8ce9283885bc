import BlockSync.Cli.Verbosity
import BlockSync.Config.Entry
import BlockSync.Log.Level

namespace BlockSync.Cli

/-!
# Endings

How a session ends: with an exit code, or with a failure that no message foresees. A refusal is an
ending with a message of its own.
-/

/-- Exit codes. -/
inductive ExitCode where
  | success
  | failure
  | wouldChange
  | badUsage
  | misuse
  | missingInput
  | badConfig
  deriving Repr, DecidableEq

/-- The number of an exit code. -/
def ExitCode.number : ExitCode → Nat
  | success => 0
  | failure => 1
  | wouldChange => 2
  | badUsage => 2
  | misuse => 64
  | missingInput => 66
  | badConfig => 78

/-- Why a command is not carried out. -/
inductive Refusal where
  | verbosityConflict
  | rootMissing (root : FilePath)
  | sourceMissing (source : FilePath)
  | badOverride (error : ConfigError)
  | badConfig (error : ConfigError)
  | unknownFragment (error : RegistryError)
  | noEntryNamed (names : List String)
  deriving Repr, DecidableEq

namespace Refusal

/-- The message of a refusal. -/
def message : Refusal → String
  | verbosityConflict => Verbosity.conflict
  | rootMissing root => "Project root not found: " ++ root.text
  | sourceMissing source => "Configuration file not found: " ++ source.text
  | badOverride error => error.message
  | badConfig error => error.message
  | unknownFragment error => error.message
  | noEntryNamed names => "No configured fragment named: " ++ ", ".intercalate names

/-- The exit code of a refusal. -/
def exitCode : Refusal → ExitCode
  | verbosityConflict | badOverride _ | noEntryNamed _ => .misuse
  | rootMissing _ | sourceMissing _ => .missingInput
  | badConfig _ | unknownFragment _ => .badConfig

end Refusal

/-- A failure that no message foresees. -/
inductive Crash where
  | fault (fault : Fault)
  | job (error : FragmentError)
  | level (error : LogLevel.NumberError)
  deriving Repr, DecidableEq

/-- The message of a crash. -/
def Crash.message : Crash → String
  | .fault cause => cause.message
  | .job error => error.message
  | .level error => error.message

/-- How a session ends. -/
inductive Ending where
  | exit (code : ExitCode)
  | crash (crash : Crash)
  deriving Repr, DecidableEq

/-- The number that a session leaves behind; a crash counts as a failure. -/
def Ending.number : Ending → Nat
  | .exit code => code.number
  | .crash _ => ExitCode.failure.number

end BlockSync.Cli
