import BlockSync.Cli.Arguments
import BlockSync.Cli.Help
import BlockSync.Cli.Listing
import BlockSync.Cli.Refusal
import BlockSync.Journal.Load
import BlockSync.Journal.Run

namespace BlockSync.Cli

/-!
# Sessions

A session carries out one command line: the words of the program are read first, then the command
is looked up, then the preferences are settled, then the words of the command are read, and then it
runs. The first thing that goes wrong ends the session.
-/

/--
What a session finds: files and a directory to start from, the environment, whether the results go
to a terminal, and whether logs and diffs can be painted.
-/
structure Surroundings where
  tree : FileNode
  directory : FilePath
  environment : Environment
  isTerminal : Bool
  isPainted : Bool

/-- A session: the files that it leaves behind, what it wrote, and how it ended. -/
structure Session where
  tree : FileNode
  transcript : Transcript
  ending : Ending

/-- The variable of the environment that asks for a log level. -/
def levelVariable : String := "TAGMARK_LOG_LEVEL"

/-- The place where command lines are read. -/
def Surroundings.place (surroundings : Surroundings) : Place :=
  ⟨surroundings.tree, surroundings.directory⟩

/-- The preferences of a session. -/
structure Preferences where
  verbosity : Verbosity
  log : Log
  console : Console

/-- A session under way: what it found, its preferences, and what it wrote so far. -/
structure Stage where
  surroundings : Surroundings
  preferences : Preferences
  transcript : Transcript

namespace Stage

/-- Writes something. -/
def say (stage : Stage) (transcript : Transcript) : Stage :=
  { stage with transcript := stage.transcript ++ transcript }

/-- Writes what the log takes in of some records. -/
def logged (stage : Stage) (records : List LogRecord) : Stage :=
  stage.say [⟨.diagnostics, stage.preferences.log.output records⟩]

/-- Ends with the files as they are. -/
def finish (stage : Stage) (ending : Ending) : Session :=
  ⟨stage.surroundings.tree, stage.transcript, ending⟩

/-- Ends with a refusal. -/
def refuse (stage : Stage) (refusal : Refusal) : Session :=
  (stage.say [stage.preferences.console.report ("Error: " ++ refusal.message)]).finish
    (.exit refusal.exitCode)

/-- Ends with a fault. -/
def crash (stage : Stage) (fault : Fault) : Session := stage.finish (.crash (.fault fault))

/-- Ends without a plan. -/
def finishUnplanned (stage : Stage) : PlanError → Session
  | .config error => stage.refuse (.badConfig error)
  | .build (.registry error) => stage.refuse (.unknownFragment error)
  | .build .nothingNamed => stage.crash .nothingNamed
  | .fault fault => stage.crash fault

end Stage

/-- The session that ends with a fault before it wrote anything. -/
def Session.crashed (surroundings : Surroundings) (fault : PathFault) : Session :=
  ⟨surroundings.tree, [], .crash (.fault (.path fault))⟩

/-- The session that only writes something. -/
def Session.saying
    (surroundings : Surroundings)
    (transcript : Transcript)
    (code : ExitCode) :
    Session :=
  ⟨surroundings.tree, transcript, .exit code⟩

/-- The session that refuses a command line. -/
def Session.misused
    (surroundings : Surroundings)
    (console : Console)
    (scope : Scope)
    (error : UsageError) :
    Session :=
  .saying surroundings [⟨.diagnostics, console.rendered (error.text scope)⟩] .badUsage

/-- The exit code of a run. -/
def runExitCode (request : RunRequest) (report : RunReport) : ExitCode :=
  if report.hadErrors then .failure
  else if !request.apply && report.count .wouldChange ≠ 0 then .wouldChange
  else .success

/-- The names that no entry of a configuration has, sorted. -/
def unknownNames (config : Config) (names : List String) : List String :=
  let labels := config.entries.map Entry.label
  ((names.filter fun name => !labels.contains name).eraseDups).mergeSort fun a b => decide (a ≤ b)

/-- The first missing one of the root and the sources of a request, if there is one. -/
def Surroundings.missing?
    (surroundings : Surroundings)
    (request : RunRequest) :
    Except PathFault (Option Refusal) := do
  let tree := surroundings.tree
  let here := surroundings.directory
  if !(← tree.hasDirectory here request.root) then
    return some (.rootMissing request.root)
  request.sources.findSomeM? fun source => do
    return if ← tree.hasFile here source then none else some (.sourceMissing source)

namespace Stage

/-- Shows a run that left some files behind, and ends. -/
def showRun
    (stage : Stage)
    (command : Command)
    (request : RunRequest)
    (config : Config)
    (tree : FileNode)
    (report : RunReport) :
    Session :=
  let view : ResultsView :=
    ⟨stage.preferences.console, stage.preferences.verbosity, request.diff,
      stage.surroundings.isPainted⟩
  let (shown, fault) := view.text tree config.root command.name report
  let ending := match fault with
    | some fault => .crash (.fault (.path fault))
    | none => .exit (runExitCode request report)
  ⟨tree, stage.transcript ++ shown, ending⟩

/-- Carries out a configuration. -/
def runConfig
    (stage : Stage)
    (command : Command)
    (mode : RunMode)
    (request : RunRequest)
    (config : Config) :
    Session :=
  let stage :=
    if config.entries.isEmpty then
      stage.say [stage.preferences.console.warn
        "No fragments configured (add [[fragments]] to tagmark.toml)."]
    else
      stage
  let unknown := unknownNames config request.only
  if unknown ≠ [] then stage.refuse (.noEntryNamed unknown)
  else
    let options : RunOptions := ⟨mode, request.apply, request.diff⟩
    let tree := stage.surroundings.tree
    let stage := stage.logged (Journal.ofRun config options request.only tree)
    let run := config.run options request.only tree
    match run.result with
    | .error (.plan error) => stage.finishUnplanned error
    | .error (.job error) => ⟨run.tree, stage.transcript, .crash (.job error)⟩
    | .ok report => stage.showRun command request config run.tree report

/-- Loads a configuration and carries it out. -/
def loadAndRun
    (stage : Stage)
    (command : Command)
    (mode : RunMode)
    (request : RunRequest)
    (overrides : Overrides) :
    Session :=
  let surroundings := stage.surroundings
  let loading :=
    loadConfig surroundings.tree surroundings.directory request.root request.sources overrides.table
  let stage := stage.logged (Journal.ofLoading loading)
  match loading.result with
  | .error (.config error) => stage.refuse (.badConfig error)
  | .error (.fault fault) => stage.crash fault
  | .ok config => stage.runConfig command mode request config

/--
Carries out a request, if its root and its sources are there and its overrides are well formed.
-/
def runRequest
    (stage : Stage)
    (command : Command)
    (mode : RunMode)
    (request : RunRequest) :
    Session :=
  match stage.surroundings.missing? request with
  | .error fault => stage.crash (.path fault)
  | .ok (some refusal) => stage.refuse refusal
  | .ok none =>
      match Overrides.parse request.values with
      | .error error => stage.refuse (.badOverride error)
      | .ok overrides => stage.loadAndRun command mode request overrides

/-- Lists the registered fragments. -/
def listFragments (stage : Stage) (scan : Scan) : Session :=
  let console := stage.preferences.console
  let fragments := Registry.shipped.sorted
  let transcript :=
    if scan.has .json then [console.print (Listing.jsonText fragments)]
    else Listing.text console (scan.has .long) fragments
  (stage.say transcript).finish (.exit .success)

/-- Shows the version. -/
def showVersion (stage : Stage) : Session :=
  let console := stage.preferences.console
  let number := console.styled .bold version
  let transcript :=
    if 0 < stage.preferences.verbosity then
      [console.print (console.styled .heading (programTitle ++ " version:")),
        console.print ("    " ++ number)]
    else
      [console.print number]
  (stage.say transcript).finish (.exit .success)

/-- Carries out a command with its words. -/
def runCommand (stage : Stage) (command : Command) (line : List String) : Session :=
  let console := stage.preferences.console
  let scope := Scope.command command
  match Reading.of stage.surroundings.place scope line with
  | .help =>
      (stage.say [console.print (Help.text scope)]).finish (.exit .success)
  | .refused error =>
      .misused stage.surroundings ⟨console.colored && error.showsUsage⟩ scope error
  | .stuck fault => stage.crash (.path fault)
  | .scanned scan =>
      match command with
      | .check => stage.runRequest command .sync scan.runRequest
      | .strip => stage.runRequest command .strip scan.runRequest
      | .fragments => stage.listFragments scan
      | .version => stage.showVersion

/-- Shows a hint and the help of the program. -/
def showOverview (stage : Stage) : Session :=
  let console := stage.preferences.console
  (stage.say [
    console.print ("Hint: use '" ++ (Scope.command .check).path ++
      "' to preview the configured fragments."),
    console.print "",
    console.print (Help.text .program)]).finish (.exit .success)

end Stage

/-- Output without colours. -/
def plainConsole : Console := ⟨false⟩

/-- The stage that the words of the program set up, or the ending that they bring about. -/
def setUp (surroundings : Surroundings) (scan : Scan) : Except Session Stage :=
  match scan.verbosity? with
  | none =>
      let text := "Error: " ++ Refusal.verbosityConflict.message
      .error (.saying surroundings [plainConsole.report text] Refusal.verbosityConflict.exitCode)
  | some verbosity =>
      let requested := surroundings.environment.lookup levelVariable
      let threshold := do
        let asked ← LogLevel.parse (requested.getD "")
        Log.thresholdOf asked requested
      match threshold with
      | .error error => .error ⟨surroundings.tree, [], .crash (.level error)⟩
      | .ok threshold =>
          let colored := scan.colorMode.isColored surroundings.environment surroundings.isTerminal
          let log : Log := ⟨threshold, surroundings.isPainted⟩
          let preferences : Preferences := ⟨verbosity, log, ⟨colored⟩⟩
          .ok ⟨surroundings, preferences, []⟩

/--
Refuses a name that no command has. A name that looks like an option is first read as one, which
may bring about another ending.
-/
def refuseCommand (surroundings : Surroundings) (name : String) (line : List String) : Session :=
  let unknown :=
    Session.misused surroundings plainConsole .program
      (.unknownCommand name (closeNames name (Command.commands.map Command.name)))
  if looksLikeOption name then
    match Reading.of surroundings.place .program (name :: line) with
    | .help => .saying surroundings [plainConsole.print (Help.text .program)] .success
    | .refused error => .misused surroundings plainConsole .program error
    | .stuck fault => .crashed surroundings fault
    | .scanned _ => unknown
  else
    unknown

/-- Carries out a command line. -/
def runSession (surroundings : Surroundings) (line : List String) : Session :=
  match Reading.of surroundings.place .program line with
  | .help => .saying surroundings [plainConsole.print (Help.text .program)] .success
  | .refused error => .misused surroundings plainConsole .program error
  | .stuck fault => .crashed surroundings fault
  | .scanned scan =>
      match scan.words with
      | [] =>
          match setUp surroundings scan with
          | .error session => session
          | .ok stage => stage.showOverview
      | name :: others =>
          match Command.ofName? name with
          | none => refuseCommand surroundings name others
          | some command =>
              match setUp surroundings scan with
              | .error session => session
              | .ok stage => stage.runCommand command others

end BlockSync.Cli
