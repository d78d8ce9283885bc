import BlockSync.Log.Level
import BlockSync.Style.Ansi

namespace BlockSync

/-!
# Log records

A record is a message of some level, made at some place. A log takes in the records from a level
on. A log that leaves out details shows the level and the message alone; one that takes them in
shows the place as well.
-/

/-- The place where a record was made. -/
structure LogSite where
  file : String
  line : Nat
  function : String
  deriving Repr, DecidableEq

/-- A message of some level. -/
structure LogRecord where
  level : LogLevel
  site : LogSite
  message : String
  deriving Repr, DecidableEq

/-- A log by the least level that it takes in, and whether it is shown in colours. -/
structure Log where
  threshold : LogLevel
  colored : Bool
  deriving Repr, DecidableEq

namespace LogRecord

/-- The level and the message. -/
def brief (record : LogRecord) : String :=
  "[" ++ record.level.name ++ "] " ++ record.message

/-- The level, the place and the message. -/
def full (record : LogRecord) : String :=
  "[" ++ record.level.name ++ "] [" ++ record.site.file ++ ":" ++ toString record.site.line ++
    "] [" ++ record.site.function ++ "] " ++ record.message

end LogRecord

namespace LogLevel

/-- The colours of a level. -/
def styles (level : LogLevel) : List Style.Effect :=
  if critical ≤ level then [Style.brightRed]
  else if error ≤ level then [Style.red]
  else if warning ≤ level then [Style.yellow]
  else if info ≤ level then [Style.green]
  else if debug ≤ level then [Style.gray]
  else if trace ≤ level then [Style.blue]
  else [Style.dim, Style.red]

end LogLevel

namespace Log

/--
The level of a log: the one that is asked for, or else that of the environment. Where that gives
none or the lowest one, only failures of the whole are taken in.
-/
def thresholdOf
    (asked : Option LogLevel)
    (environment : Option String) :
    Except LogLevel.NumberError LogLevel :=
  match asked with
  | some level => .ok level
  | none => do
      match ← LogLevel.parse (environment.getD "") with
      | some level => return if level = LogLevel.all then LogLevel.critical else level
      | none => return LogLevel.critical

/-- Whether a log takes in a record. A record must be above level zero, whatever the log takes. -/
def accepts (log : Log) (record : LogRecord) : Bool :=
  decide (LogLevel.all < record.level ∧ log.threshold ≤ record.level)

/-- The line of a record. -/
def line (log : Log) (record : LogRecord) : String :=
  let text := if LogLevel.info ≤ log.threshold then record.brief else record.full
  String.ofList (Style.paint log.colored record.level.styles text.toList) ++ "\n"

/-- What a log shows of some records. -/
def output (log : Log) (records : List LogRecord) : String :=
  String.join ((records.filter log.accepts).map log.line)

end Log

end BlockSync
