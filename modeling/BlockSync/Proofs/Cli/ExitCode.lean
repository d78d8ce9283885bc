import BlockSync.Cli.Session
import BlockSync.Proofs.Merge.Flags
import BlockSync.Proofs.Run.Preview

namespace BlockSync.Cli

/-!
# Exit codes of previews

A command that only previews a run ends as the command that carries it out, except that it tells by
its exit code whether there is anything to write.
-/

/-- Whether a stage loads a configuration for a request that names none but its entries. -/
structure Stage.Loads (stage : Stage) (request : RunRequest) (config : Config) : Prop where
  nothingMissing :
    stage.surroundings.missing? request = .ok none
  loaded :
    ∃ overrides,
      Overrides.parse request.values = .ok overrides ∧
        (loadConfig stage.surroundings.tree stage.surroundings.directory request.root
            request.sources overrides.table).result =
          .ok config
  allKnown :
    unknownNames config request.only = []

/-- How a session without writing and one with writing end, given the number of written files. -/
structure EndsForetold (dry wet : Session) (written : Nat) : Prop where
  failure :
    dry.ending.number = 1 ↔ wet.ending.number = 1
  change :
    dry.ending.number ≠ 1 → (dry.ending.number = 2 ↔ 1 ≤ written)
  success :
    dry.ending.number ≠ 1 → (dry.ending.number = 0 ↔ written = 0)

/-- The ending of a session that shows a run: a crash, if a path cannot be shown. -/
def Ending.afterShowing (fault : Option PathFault) (code : ExitCode) : Ending :=
  match fault with
  | some fault => .crash (.fault (.path fault))
  | none => .exit code

namespace ResultsView

variable (view : ResultsView) {tree other : FileNode}

/-- A preview names the same files. -/
theorem names_previewed (file : FileReport) : view.names file.previewed = view.names file := by
  rw [names, names, FileReport.previewed]
  cases file.outcome <;> simp [Outcome.previewed]

/-- The paths of a preview can be shown exactly if those of the run can. -/
theorem fault_filesText_previewed
    (same : tree.outline = other.outline)
    (root : FilePath)
    (files : List FileReport) :
    (view.filesText tree root (files.map FileReport.previewed)).2 =
      (view.filesText other root files).2 := by
  induction files with
  | nil =>
      rfl
  | cons file others inductionHypothesis =>
      rw [List.map_cons, filesText, filesText, names_previewed]
      split
      · rw [FileReport.previewed, FileNode.relativePath_congr same]
        cases other.relativePath file.path root with
        | error fault =>
            rfl
        | ok path =>
            exact inductionHypothesis
      · exact inductionHypothesis

/-- What is shown of a run is complete if the paths of its files can be shown. -/
theorem fault_text
    (tree : FileNode)
    (root : FilePath)
    (command : String)
    (report : RunReport) :
    (view.text tree root command report).2 = (view.filesText tree root report.files).2 := by
  rw [text]
  cases view.filesText tree root report.files with
  | mk shown fault =>
      dsimp only
      split <;> rfl

end ResultsView

namespace Stage

/-- How a stage shows the results of a request. -/
def view (stage : Stage) (request : RunRequest) : ResultsView :=
  ⟨stage.preferences.console, stage.preferences.verbosity, request.diff,
    stage.surroundings.isPainted⟩

variable {stage : Stage} {request : RunRequest} {config : Config} {mode : RunMode}

/-- The ending of a session that carried out a plan: that of its report, or a crash. -/
def endingOf
    (stage : Stage)
    (command : Command)
    (request : RunRequest)
    (config : Config)
    (after : FileNode) :
    Except RunError RunReport → Ending
  | .error (.plan error) => (stage.finishUnplanned error).ending
  | .error (.job error) => .crash (.job error)
  | .ok report => (stage.showRun command request config after report).ending

/-- A session that loads a configuration and carries it out ends as the run does. -/
theorem Loads.runRequest_eq
    (loads : stage.Loads request config)
    {planning : Planning}
    (planned : config.plan stage.surroundings.tree request.only = .ok planning)
    {after : FileNode}
    {result : Except RunError RunReport}
    (ran : config.run ⟨mode, request.apply, request.diff⟩ request.only stage.surroundings.tree =
      ⟨after, result⟩)
    (command : Command) :
    (stage.runRequest command mode request).tree = after ∧
      (stage.runRequest command mode request).ending =
        stage.endingOf command request config after result := by
  obtain ⟨nothingMissing, ⟨overrides, parsed, loaded⟩, allKnown⟩ := loads
  have isJob : ∀ error, result = .error error → ∃ cause, error = .job cause := by
    rintro error rfl
    have failed := congrArg Run.result ran
    obtain ⟨cause, isCause, _⟩ := (config.run_eq_error_iff_of_plan planned).mp failed
    exact ⟨cause, isCause⟩
  -- What a stage has said so far plays no part in how it ends.
  have carriedOut : ∀ later : Stage,
      later.surroundings = stage.surroundings →
        later.preferences = stage.preferences →
        (later.runConfig command mode request config).tree = after ∧
          (later.runConfig command mode request config).ending =
            stage.endingOf command request config after result := by
    intro later sameSurroundings samePreferences
    obtain ⟨surroundings, preferences, transcript⟩ := later
    cases sameSurroundings
    cases samePreferences
    rw [runConfig, allKnown]
    cases config.entries.isEmpty
    all_goals
      simp only [Bool.false_eq_true, ↓reduceIte, ne_eq, not_true_eq_false, say, logged, ran]
      cases result with
      | error error =>
          obtain ⟨cause, rfl⟩ := isJob error rfl
          exact ⟨rfl, rfl⟩
      | ok report =>
          exact ⟨rfl, rfl⟩
  rw [runRequest, nothingMissing]
  simp only [parsed]
  unfold loadAndRun
  simp only [loaded]
  exact carriedOut _ rfl rfl

/-- A session that shows a run ends with its exit code. -/
theorem ending_showRun
    (stage : Stage)
    (command : Command)
    (request : RunRequest)
    (config : Config)
    (tree : FileNode)
    (report : RunReport) :
    (stage.showRun command request config tree report).ending =
      .afterShowing
        ((stage.view request).filesText tree config.root report.files).2
        (runExitCode request report) := by
  rw [← ResultsView.fault_text, showRun]
  rfl

end Stage

/-- A preview tells by its exit code whether files would be written, unless there are errors. -/
theorem runExitCode_preview
    {report : RunReport}
    (noneWouldChange : report.count .wouldChange = 0)
    (request : RunRequest) :
    runExitCode { request with apply := false } report.previewed =
      if report.hadErrors then .failure
      else if report.written = 0 then .success
      else .wouldChange := by
  obtain ⟨_, wouldChange, sameErrors⟩ := report.count_previewed
  rw [noneWouldChange, Nat.zero_add] at wouldChange
  rw [runExitCode, sameErrors, wouldChange, ← RunReport.written]
  by_cases none : report.written = 0 <;> simp [none]

/-- A run that writes succeeds, unless there are errors. -/
theorem runExitCode_apply (request : RunRequest) (report : RunReport) :
    runExitCode { request with apply := true } report =
      if report.hadErrors then .failure else .success := by
  simp [runExitCode]

/-- Two sessions that show a preview and the run that it foretells. -/
theorem endsForetold_of_endings
    {request : RunRequest}
    {report : RunReport}
    {fault : Option PathFault}
    {dry wet : Session}
    (noneWouldChange : report.count .wouldChange = 0)
    (dryEnding : dry.ending =
      .afterShowing fault (runExitCode { request with apply := false } report.previewed))
    (wetEnding : wet.ending =
      .afterShowing fault (runExitCode { request with apply := true } report)) :
    EndsForetold dry wet report.written := by
  rw [runExitCode_preview noneWouldChange] at dryEnding
  rw [runExitCode_apply] at wetEnding
  cases fault with
  | some fault =>
      constructor <;>
        simp [dryEnding, wetEnding, Ending.afterShowing, Ending.number, ExitCode.number]
  | none =>
      cases failed : report.hadErrors with
      | true =>
          constructor <;>
            simp [dryEnding, wetEnding, Ending.afterShowing, Ending.number, ExitCode.number, failed]
      | false =>
          by_cases none : report.written = 0
          · constructor <;>
              simp [dryEnding, wetEnding, Ending.afterShowing, Ending.number, ExitCode.number,
                failed, none]
          · constructor <;>
              simp [dryEnding, wetEnding, Ending.afterShowing, Ending.number, ExitCode.number,
                failed, none, Nat.one_le_iff_ne_zero]

/-- Two sessions from which the same failure escapes. -/
theorem endsForetold_of_crash
    {crash : Crash}
    {dry wet : Session}
    {written : Nat}
    (dryEnding : dry.ending = .crash crash)
    (wetEnding : wet.ending = .crash crash) :
    EndsForetold dry wet written := by
  constructor <;> simp [dryEnding, wetEnding, Ending.number, ExitCode.number]

/--
If different paths of a plan lead to different files and those that are given another text can be
written, a run that writes gives every planned file the text that its jobs make of it and keeps
every other file, up to the first file from which a failure escapes.  A run that does not write
reports the same, or lets the same failure escape.  A command that loads the configuration tells by
its exit code whether there is anything to write, or fails if the command that writes does.
-/
theorem preview_foretells_run
    {config : Config}
    {only : List String}
    {tree : FileNode}
    {planning : Planning}
    {mode : RunMode}
    (planned : config.plan tree only = .ok planning)
    (apart : planning.plan.LeadsApart tree)
    (canWrite : ∀ item ∈ planning.plan, config.CanWrite mode tree item)
    (diff : Bool) :
    ∃ after result,
      config.Foretold mode diff only tree planning.plan after result ∧
        ∀ (stage : Stage) (command : Command) (request : RunRequest),
          stage.surroundings.tree = tree →
            request.only = only →
            request.diff = diff →
            stage.Loads request config →
            let dry := stage.runRequest command mode { request with apply := false }
            let wet := stage.runRequest command mode { request with apply := true }
            dry.tree = tree ∧
              wet.tree = after ∧
              EndsForetold dry wet
                (planning.plan.countP fun item => (config.rewrite? mode tree item).isSome) := by
  obtain ⟨after, result, foretold⟩ := Config.exists_foretold planned apart canWrite diff
  refine ⟨after, result, foretold, ?_⟩
  rintro stage command request rfl rfl rfl ⟨nothingMissing, loaded, allKnown⟩
  have loads : ∀ apply, stage.Loads { request with apply := apply } config :=
    fun _ => ⟨nothingMissing, loaded, allKnown⟩
  obtain ⟨dryTree, dryEnding⟩ :=
    (loads false).runRequest_eq planned foretold.previewed command
  obtain ⟨wetTree, wetEnding⟩ :=
    (loads true).runRequest_eq planned foretold.applied command
  refine ⟨dryTree, wetTree, ?_⟩
  cases isResult : result with
  | error error =>
      obtain ⟨cause, rfl, _⟩ := (foretold.fails_iff error).mp isResult
      rw [isResult] at dryEnding wetEnding
      exact endsForetold_of_crash dryEnding wetEnding
  | ok report =>
      obtain ⟨_, countsRewritten, noneWouldChange⟩ := foretold.counted report isResult
      have sameFault :=
        (stage.view request).fault_filesText_previewed foretold.sameOutline.symm config.root
          report.files
      rw [isResult] at dryEnding wetEnding
      have dryShown := dryEnding.trans (stage.ending_showRun command _ config _ _)
      have wetShown := wetEnding.trans (stage.ending_showRun command _ config _ _)
      rw [RunReport.previewed] at dryShown
      rw [← countsRewritten]
      exact endsForetold_of_endings noneWouldChange (sameFault ▸ dryShown) wetShown

/-- A project with one file, into which its configuration puts a note. -/
def noteProject : FileNode :=
  .directory
    [("tagmark.toml",
        .file (Text.encode "[[fragments]]\ntag=\"n\"\nanchor=\"x\"\npayload=\"p\"\nfiles=\"a\"")),
      ("a", .file (Text.encode "x"))]

/-- A session that starts in the root of the project. -/
def noteStage : Stage :=
  ⟨⟨noteProject, ⟨"/", []⟩, [], false, false⟩, ⟨0, ⟨.critical, false⟩, ⟨false⟩⟩, []⟩

/-- A request for all entries of the project. -/
def noteRequest : RunRequest :=
  ⟨⟨"", []⟩, [], [], [], false, false⟩

/-- The preview of the note, and the command that writes it. -/
theorem preview_foretells_run_note :
    ∃ (config : Config) (planning : Planning) (after : FileNode)
      (result : Except RunError RunReport),
      config.plan noteProject [] = .ok planning ∧
        planning.plan.map (·.1) = [⟨"/", ["a"]⟩] ∧
        config.Foretold .sync false [] noteProject planning.plan after result ∧
        EndsForetold
          (noteStage.runRequest .check .sync { noteRequest with apply := false })
          (noteStage.runRequest .check .sync { noteRequest with apply := true })
          (planning.plan.countP fun item => (config.rewrite? .sync noteProject item).isSome) := by
  have evaluated :
      ((loadConfig noteProject ⟨"/", []⟩ ⟨"", []⟩ [] []).result.toOption.bind fun config =>
          (config.plan noteProject []).toOption.map fun planning =>
            planning.plan.map (·.1)) =
        some [⟨"/", ["a"]⟩] := by
    decide +kernel
  obtain ⟨config, loaded, planned⟩ := Option.bind_eq_some_iff.mp evaluated
  obtain ⟨planning, planned, paths⟩ := Option.map_eq_some_iff.mp planned
  have loaded := Except.toOption_eq_some_iff.mp loaded
  have planned := Except.toOption_eq_some_iff.mp planned
  have onlyPath : ∀ item ∈ planning.plan, item.1 = ⟨"/", ["a"]⟩ := by
    intro item member
    have isPath : item.1 ∈ planning.plan.map (·.1) :=
      List.mem_map_of_mem member
    rw [paths] at isPath
    exact List.mem_singleton.mp isPath
  have apart : planning.plan.LeadsApart noteProject := by
    intro item isItem other isOther different
    exact (different ((onlyPath item isItem).trans (onlyPath other isOther).symm)).elim
  have canWrite : ∀ item ∈ planning.plan, config.CanWrite .sync noteProject item := by
    intro item isItem final _
    rw [onlyPath item isItem]
    exact ⟨["a"], rfl⟩
  have loads : noteStage.Loads noteRequest config :=
    ⟨rfl, ⟨[], rfl, loaded⟩, by simp [unknownNames, noteRequest]⟩
  obtain ⟨after, result, foretold, ends⟩ :=
    preview_foretells_run planned apart canWrite false
  obtain ⟨_, _, endsForetold⟩ := ends noteStage .check noteRequest rfl rfl rfl loads
  exact ⟨config, planning, after, result, planned, paths, foretold, endsForetold⟩

/-- An entry that puts a text behind the line with an `x` of a file. -/
def marginEntry (name : String) (tag : Tag) (payload : String) : Entry :=
  ⟨[name], .inline ⟨tag, .literal "x" .after "", true, .default, .parse payload, none, ""⟩, []⟩

/-- The job of such an entry. -/
def marginJob (name : String) (tag : Tag) (payload : String) : Job :=
  ⟨marginEntry name tag payload,
    .ofTemplate tag.name (.literal "x" .after "") (.parse payload) .default none [] "" ""⟩

/-- The job that puts a shared value into the first file. -/
def valueJob : Job :=
  marginJob "a" ⟨"value", by decide⟩ "$v"

/-- The job that puts a note into the second file. -/
def plainJob : Job :=
  marginJob "b" ⟨"plain", by decide⟩ "p"

/-- A configuration of both jobs. -/
def marginConfig (shared : Table) : Config :=
  ⟨⟨"/", []⟩, [valueJob.entry, plainJob.entry], shared, [], []⟩

/-- The two files. -/
def twoFiles : FileNode :=
  .directory [("a", .file (Text.encode "x")), ("b", .file (Text.encode "x"))]

/-- The plan for the two files. -/
def marginPlan : Plan :=
  [(⟨"/", ["a"]⟩, [valueJob]), (⟨"/", ["b"]⟩, [plainJob])]

/-- Both files are planned. -/
theorem plan_marginConfig (shared : Table) :
    (marginConfig shared).plan twoFiles [] = .ok ⟨marginPlan, []⟩ := by
  have firstTargets :
      resolveTargets twoFiles ⟨"/", []⟩ valueJob.entry.files [] = .ok [⟨"/", ["a"]⟩] := by
    decide +kernel
  have secondTargets :
      resolveTargets twoFiles ⟨"/", []⟩ plainJob.entry.files [] = .ok [⟨"/", ["b"]⟩] := by
    decide +kernel
  have firstBuilt : valueJob.entry.build .shipped = .ok valueJob.fragment :=
    rfl
  have secondBuilt : plainJob.entry.build .shipped = .ok plainJob.fragment :=
    rfl
  have entries : (marginConfig shared).selected [] = [valueJob.entry, plainJob.entry] :=
    rfl
  have added :
      [valueJob.entry, plainJob.entry].foldlM (Planning.addEntry twoFiles (marginConfig shared))
          ⟨[], []⟩ =
        .ok ⟨marginPlan, []⟩ := by
    simp [Planning.addEntry, marginConfig, firstBuilt, secondBuilt, firstTargets, secondTargets,
      Except.mapError, bind, Except.bind, pure, Except.pure, Plan.addJob, Plan.addToFile,
      marginPlan]
  have ordered : Plan.sorted marginPlan = marginPlan :=
    List.mergeSort_of_pairwise (by decide)
  rw [Config.plan, entries, added]
  exact congrArg (fun plan : Plan => Except.ok (Planning.mk plan [])) ordered

/-- The two paths lead to different files. -/
theorem leadsApart_marginPlan : marginPlan.LeadsApart twoFiles := by
  have places : ∀ item ∈ marginPlan, ∃ name,
      item.1 = ⟨"/", [name]⟩ ∧ twoFiles.place? item.1 = some [name] := by
    simp only [marginPlan, List.forall_mem_cons]
    exact ⟨⟨"a", rfl, rfl⟩, ⟨"b", rfl, rfl⟩, List.forall_mem_nil _⟩
  intro item isItem other isOther different names isPlace isOtherPlace
  obtain ⟨name, isPath, leadsThere⟩ := places item isItem
  obtain ⟨otherName, isOtherPath, otherLeadsThere⟩ := places other isOther
  rw [leadsThere] at isPlace
  rw [otherLeadsThere, ← isPlace, Option.some.injEq, List.singleton_inj] at isOtherPlace
  rw [isPath, isOtherPath, isOtherPlace] at different
  exact different rfl

/-- The note is written behind the line of its file. -/
theorem exists_rewrite?_plainJob (shared : Table) :
    ∃ final,
      (marginConfig shared).rewrite? .sync twoFiles (⟨"/", ["b"]⟩, [plainJob]) = some final := by
  have isRead : twoFiles.readText ⟨"/", ["b"]⟩ = .ok "x" :=
    rfl
  have outcome :
      Merge.Outcome "x" ⟨"plain", by decide⟩ (.literal "x" .after "") "p" .default _ :=
    .fresh 1 (by decide) (by decide)
  have done : Job.Done shared plainJob "x" _ :=
    .merged ⟨"plain", by decide⟩ "p" _ rfl rfl rfl outcome
  have ran : (Job.runAll .sync shared "x" [plainJob]).2 = .ok _ :=
    Job.runAll_cons_eq_ok_iff.mpr ⟨_, Job.run_sync_eq_ok_iff.mpr done, rfl⟩
  have differs :=
    Merge.ofLines_placed_ne CommentStyle.clean_default.lacksFeed "x" false 1
      ⟨"plain", by decide⟩ "p"
  exact ⟨_, rewrite?_eq_some isRead (Prod.ext rfl ran) differs⟩

/-- A shared value that is an integer with too many digits ends a run at the first file. -/
theorem exists_escape?_valueJob :
    ∃ shared,
      (marginConfig shared).escape? .sync twoFiles (⟨"/", ["a"]⟩, [valueJob]) =
        some .tooManyDigits :=
  ⟨[("v", .integer (16 ^ 4000))], by decide +kernel⟩

/--
A value that no text has ends the run at the first file, so the second one is not rewritten, though
its job succeeds and changes its text.
-/
theorem preview_foretells_run_escaped :
    ∃ config : Config,
      config.plan twoFiles [] = .ok ⟨marginPlan, []⟩ ∧
        marginPlan.LeadsApart twoFiles ∧
        (∃ final, config.rewrite? .sync twoFiles (⟨"/", ["b"]⟩, [plainJob]) = some final) ∧
        config.run ⟨.sync, true, false⟩ [] twoFiles =
          ⟨twoFiles, .error (.job .tooManyDigits)⟩ := by
  obtain ⟨shared, escapes⟩ := exists_escape?_valueJob
  have planned := plan_marginConfig shared
  have ran := (marginConfig shared).run_eq_of_plan planned ⟨.sync, true, false⟩
  have stops :
      processFiles (marginConfig shared) ⟨.sync, true, false⟩ twoFiles marginPlan =
        (twoFiles, .error .tooManyDigits) :=
    processFiles_cons_of_escape? escapes _
  rw [stops] at ran
  exact ⟨_, planned, leadsApart_marginPlan, exists_rewrite?_plainJob shared, ran⟩

end BlockSync.Cli
