import BlockSync.Proofs.FileTree.Place
import BlockSync.Proofs.Run.Job

namespace BlockSync

/-!
# What a run does to files

Carrying out the jobs of a path rewrites the bytes in the place that the path leads to, and touches
no other place.  Bytes that are no text, texts on which a job fails, and locked files stay as they
are.  A failure that escapes ends the run, so only the paths in front of it are reached.
-/

/-- The bytes of a file after the jobs of a path. -/
def rewritten
    (config : Config)
    (mode : RunMode)
    (jobs : List Job)
    (content : ByteArray) :
    ByteArray :=
  match Text.decode content with
  | .error _ => content
  | .ok before =>
      match (Job.runAll mode config.values before jobs).2 with
      | .error _ => content
      | .ok after => Text.encode after

section Bytes

variable {config : Config} {mode : RunMode} {jobs : List Job} {content : ByteArray}

/-- Bytes that are no text stay as they are. -/
theorem rewritten_of_error
    {error : Text.DecodeError}
    (undecodable : Text.decode content = .error error) :
    rewritten config mode jobs content = content := by
  rw [rewritten, undecodable]

/-- A text on which a job fails stays as it is. -/
theorem rewritten_of_failed
    {text : String}
    {error : FragmentError}
    (decoded : Text.decode content = .ok text)
    (failed : (Job.runAll mode config.values text jobs).2 = .error error) :
    rewritten config mode jobs content = content := by
  rw [rewritten, decoded]
  simp only [failed]

/-- A text on which all jobs succeed becomes the text that they leave. -/
theorem rewritten_of_done
    {text final : String}
    (decoded : Text.decode content = .ok text)
    (ran : (Job.runAll mode config.values text jobs).2 = .ok final) :
    rewritten config mode jobs content = Text.encode final := by
  rw [rewritten, decoded]
  simp only [ran]

end Bytes

/-- The failure with which the jobs of a planned file end the whole run, if they do. -/
def Config.escape?
    (config : Config)
    (mode : RunMode)
    (tree : FileNode)
    (item : FilePath × List Job) :
    Option FragmentError :=
  match tree.readText item.1 with
  | .error _ => none
  | .ok before =>
      match Job.foldAll mode config.values before item.2 with
      | .error error => if error.isExpected then none else some error
      | .ok _ => none

/--
How the jobs of a path end: there is no text, one of them fails in a way that is reported or in one
that escapes, or they leave some text.
-/
inductive JobsEnd
    (mode : RunMode)
    (shared : Table)
    (tree : FileNode)
    (path : FilePath)
    (jobs : List Job) :
    Prop where
  | unread (error : ReadError) :
      tree.readText path = .error error →
      JobsEnd mode shared tree path jobs
  | failed (before : String) (reports : List JobReport) (error : FragmentError) :
      tree.readText path = .ok before →
      Job.runAll mode shared before jobs = (reports, .error error) →
      error.isExpected = true →
      JobsEnd mode shared tree path jobs
  | escaped (before : String) (reports : List JobReport) (error : FragmentError) :
      tree.readText path = .ok before →
      Job.runAll mode shared before jobs = (reports, .error error) →
      error.isExpected = false →
      JobsEnd mode shared tree path jobs
  | same (before : String) (reports : List JobReport) :
      tree.readText path = .ok before →
      Job.runAll mode shared before jobs = (reports, .ok before) →
      JobsEnd mode shared tree path jobs
  | differs (before : String) (reports : List JobReport) (after : String) :
      tree.readText path = .ok before →
      Job.runAll mode shared before jobs = (reports, .ok after) →
      after ≠ before →
      JobsEnd mode shared tree path jobs

/-- The jobs of a path end in one of these ways. -/
theorem jobsEnd
    (mode : RunMode)
    (shared : Table)
    (tree : FileNode)
    (path : FilePath)
    (jobs : List Job) :
    JobsEnd mode shared tree path jobs := by
  cases isRead : tree.readText path with
  | error error =>
      exact .unread error isRead
  | ok before =>
      cases ran : Job.runAll mode shared before jobs with
      | mk reports final =>
          cases final with
          | error error =>
              cases expected : error.isExpected with
              | true =>
                  exact .failed before reports error isRead ran expected
              | false =>
                  exact .escaped before reports error isRead ran expected
          | ok after =>
              by_cases same : after = before
              · subst after
                exact .same before reports isRead ran
              · exact .differs before reports after isRead ran same

section File

variable {config : Config} {options : RunOptions} {tree : FileNode} {path : FilePath}
  {jobs : List Job}

/-- What escapes from the jobs of a path ends the run, and nothing else does. -/
theorem processFile_eq_error_iff
    {error : FragmentError} :
    (processFile config options tree path jobs).2 = .error error ↔
      config.escape? options.mode tree (path, jobs) = some error := by
  rw [processFile, Config.escape?]
  cases jobsEnd options.mode config.values tree path jobs with
  | unread cause unread =>
      simp [unread]
  | failed before reports cause isRead ran expected =>
      simp [isRead, Job.foldAll_eq, ran, expected]
  | escaped before reports cause isRead ran unexpected =>
      simp [isRead, Job.foldAll_eq, ran, unexpected]
  | same before reports isRead ran =>
      simp [isRead, Job.foldAll_eq, ran]
  | differs before reports after isRead ran differs =>
      simp only [isRead, Job.foldAll_eq, ran]
      split
      · split <;> simp
      · simp

/-- What escapes from the jobs of a path leaves the tree as it was. -/
theorem processFile_of_escape?
    {error : FragmentError}
    (escapes : config.escape? options.mode tree (path, jobs) = some error) :
    processFile config options tree path jobs = (tree, .error error) := by
  rw [Config.escape?] at escapes
  rw [processFile]
  cases jobsEnd options.mode config.values tree path jobs with
  | unread cause unread =>
      simp [unread] at escapes
  | failed before reports cause isRead ran expected =>
      simp [isRead, Job.foldAll_eq, ran, expected] at escapes
  | escaped before reports cause isRead ran unexpected =>
      simpa [isRead, Job.foldAll_eq, ran, unexpected] using escapes
  | same before reports isRead ran =>
      simp [isRead, Job.foldAll_eq, ran] at escapes
  | differs before reports after isRead ran differs =>
      simp [isRead, Job.foldAll_eq, ran] at escapes

/-- What escapes from a path is what its jobs fail with on its text, which is not expected. -/
theorem Config.exists_foldAll_of_escape?
    {config : Config}
    {mode : RunMode}
    {item : FilePath × List Job}
    {error : FragmentError}
    (escapes : config.escape? mode tree item = some error) :
    ∃ text,
      Job.foldAll mode config.values text item.2 = .error error ∧ error.isExpected = false := by
  rw [escape?] at escapes
  split at escapes
  · cases escapes
  · next text _ =>
    split at escapes
    · next failed =>
      split at escapes
      · cases escapes
      · next unexpected =>
        cases escapes
        exact ⟨text, failed, by simpa using unexpected⟩
    · cases escapes

/-- There is a report on a path unless something escapes from its jobs. -/
theorem exists_report_iff :
    (∃ report, (processFile config options tree path jobs).2 = .ok report) ↔
      config.escape? options.mode tree (path, jobs) = none := by
  cases processed : (processFile config options tree path jobs).2 with
  | error error =>
      rw [processFile_eq_error_iff] at processed
      simp [processed]
  | ok report =>
      cases escapes : config.escape? options.mode tree (path, jobs) with
      | none =>
          simp
      | some error =>
          rw [processFile_eq_error_iff.mpr escapes] at processed
          cases processed

/-- Taking blocks out lets nothing escape. -/
theorem Config.escape?_strip
    (config : Config)
    (tree : FileNode)
    (item : FilePath × List Job) :
    config.escape? .strip tree item = none := by
  rw [escape?]
  split
  · rfl
  · rw [Job.foldAll_eq]
    split
    · next failed =>
      obtain ⟨_, _, _, failedThere⟩ := Job.exists_run_of_runAll failed
      rw [if_pos (Job.isExpected_of_run_strip failedThere)]
    · rfl

/-- A run that does not write leaves the tree as it was. -/
theorem processFile_of_not_apply
    (dry : options.apply = false)
    (tree : FileNode)
    (path : FilePath)
    (jobs : List Job) :
    (processFile config options tree path jobs).1 = tree := by
  rw [processFile]
  split
  · rfl
  · split
    · split <;> rfl
    · simp [dry]

/-- The tree after the jobs of a path that can be written, in terms of the bytes in its place. -/
theorem processFile_of_openPlace?
    {names : List String}
    {content : ByteArray}
    (writes : options.apply = true)
    (isOpen : tree.openPlace? path = some names)
    (present : tree.fileAt names = some content)
    (jobs : List Job) :
    ((processFile config options tree path jobs).1 = tree ∧
        rewritten config options.mode jobs content = content) ∨
      (processFile config options tree path jobs).1 =
        FileNode.put (.file (rewritten config options.mode jobs content)) names tree := by
  rw [processFile, FileNode.readText_of_place? (FileNode.place?_of_openPlace? isOpen) present,
    rewritten]
  cases decoded : Text.decode content with
  | error error =>
      exact Or.inl ⟨rfl, rfl⟩
  | ok before =>
      simp only [Except.mapError]
      cases ran : Job.runAll options.mode config.values before jobs with
      | mk reports final =>
          cases final with
          | error error =>
              refine Or.inl ⟨?_, rfl⟩
              dsimp only
              split <;> rfl
          | ok after =>
              simp only [writes, Bool.true_and]
              by_cases same : after = before
              · subst after
                left
                simpa using Text.encode_of_decode decoded
              · right
                simp [same, FileNode.writeText, FileNode.write_of_openPlace? isOpen]

/-- A path that cannot be written leaves the tree as it was. -/
theorem processFile_of_openPlace?_eq_none
    (notOpen : tree.openPlace? path = none)
    (options : RunOptions)
    (jobs : List Job) :
    (processFile config options tree path jobs).1 = tree := by
  rw [processFile]
  split
  · rfl
  · split
    · split <;> rfl
    · next after _ =>
      obtain ⟨error, refused⟩ :=
        FileNode.write_of_openPlace?_eq_none notOpen (Text.encode after)
      simp only [FileNode.writeText, refused]
      split <;> rfl

/-- The jobs of a path rewrite the file that the path leads to, and no other one. -/
theorem files_processFile
    (writes : options.apply = true)
    (tree : FileNode)
    (path : FilePath)
    (jobs : List Job) :
    (processFile config options tree path jobs).1.outline = tree.outline ∧
      ∀ names,
        (processFile config options tree path jobs).1.fileAt names =
          if tree.openPlace? path = some names then
            (tree.fileAt names).map (rewritten config options.mode jobs)
          else
            tree.fileAt names := by
  cases isOpen : tree.openPlace? path with
  | none =>
      rw [processFile_of_openPlace?_eq_none isOpen]
      exact ⟨rfl, fun names => by simp⟩
  | some place =>
      obtain ⟨content, _, present, _⟩ :=
        FileNode.exists_fileAt (FileNode.place?_of_openPlace? isOpen)
      rcases processFile_of_openPlace? writes isOpen present jobs with
          ⟨untouched, unchanged⟩ | written
      · rw [untouched]
        refine ⟨rfl, fun names => ?_⟩
        split
        · next same =>
          rw [Option.some.injEq] at same
          subst names
          rw [present, Option.map_some, unchanged]
        · rfl
      · rw [written]
        refine ⟨FileNode.outline_put_openPlace? isOpen _, fun names => ?_⟩
        split
        · next same =>
          rw [Option.some.injEq] at same
          subst names
          rw [FileNode.fileAt_put_self, present, Option.map_some]
        · next different =>
          exact FileNode.fileAt_put_of_ne present
            (fun same => different (congrArg some same.symm)) _

end File

namespace Plan

/-- The part of a plan that a run comes to before a failure escapes. -/
def reached (config : Config) (options : RunOptions) : FileNode → Plan → Plan
  | _, [] => []
  | tree, item :: others =>
      match config.escape? options.mode tree item with
      | some _ => []
      | none =>
          item :: reached config options (processFile config options tree item.1 item.2).1 others

/-- The jobs of the paths that lead to an unlocked place, in the order of the plan. -/
def jobsAt (plan : Plan) (tree : FileNode) (names : List String) : List (List Job) :=
  (plan.filter fun item => tree.openPlace? item.1 = some names).map (·.2)

/-- Whether a failure escapes from a file of a plan, with those before it processed. -/
def Escapes
    (config : Config)
    (options : RunOptions)
    (tree : FileNode)
    (plan : Plan)
    (error : FragmentError) :
    Prop :=
  ∃ before item after reports,
    plan = before ++ item :: after ∧
      (processFiles config options tree before).2 = .ok reports ∧
      config.escape? options.mode (processFiles config options tree before).1 item = some error

variable {config : Config} {options : RunOptions}

/-- What a run comes to is the start of its plan. -/
theorem reached_prefix
    (config : Config)
    (options : RunOptions)
    (tree : FileNode)
    (plan : Plan) :
    reached config options tree plan <+: plan := by
  induction plan generalizing tree with
  | nil =>
      exact List.prefix_rfl
  | cons item others inductionHypothesis =>
      rw [reached]
      split
      · exact List.nil_prefix
      · exact List.cons_prefix_cons.mpr ⟨rfl, inductionHypothesis _⟩

/-- A run that takes blocks out comes to the whole of its plan. -/
theorem reached_of_strip
    (strips : options.mode = .strip)
    (tree : FileNode)
    (plan : Plan) :
    reached config options tree plan = plan := by
  induction plan generalizing tree with
  | nil =>
      rfl
  | cons item others inductionHypothesis =>
      rw [reached, strips, config.escape?_strip]
      exact congrArg (item :: ·) (inductionHypothesis _)

end Plan

section Files

variable {config : Config} {options : RunOptions} {tree : FileNode} {plan : Plan}
  {path : FilePath} {jobs : List Job}

/-- A failure that escapes from the first file ends the run with the files as they were. -/
theorem processFiles_cons_of_escape?
    {error : FragmentError}
    (escapes : config.escape? options.mode tree (path, jobs) = some error)
    (others : Plan) :
    processFiles config options tree ((path, jobs) :: others) = (tree, .error error) := by
  rw [processFiles, processFile_of_escape? escapes]

/-- A report on the first file stands in front of those on the others. -/
theorem processFiles_cons_of_report
    {report : FileReport}
    (reported : (processFile config options tree path jobs).2 = .ok report)
    (others : Plan) :
    processFiles config options tree ((path, jobs) :: others) =
      ((processFiles config options (processFile config options tree path jobs).1 others).1,
        (processFiles config options (processFile config options tree path jobs).1 others).2.map
          (report :: ·)) := by
  rw [processFiles]
  revert reported
  cases processFile config options tree path jobs with
  | mk later result =>
      rintro rfl
      rfl

/-- What escapes from the first file is all that escapes from the plan. -/
theorem escapes_cons_of_escape?
    {cause error : FragmentError}
    (escapes : config.escape? options.mode tree (path, jobs) = some cause) :
    Plan.Escapes config options tree ((path, jobs) :: plan) error ↔ cause = error := by
  constructor
  · rintro ⟨before, item, after, reports, split, processed, escapesHere⟩
    cases before with
    | nil =>
        cases split
        rw [processFiles, escapes] at escapesHere
        exact Option.some.inj escapesHere
    | cons _ before =>
        cases split
        rw [processFiles_cons_of_escape? escapes] at processed
        cases processed
  · rintro rfl
    exact ⟨[], (path, jobs), plan, [], rfl, rfl, escapes⟩

/-- Behind a first file with a report, something escapes from the files that it leaves. -/
theorem escapes_cons_of_report
    {report : FileReport}
    {error : FragmentError}
    (reported : (processFile config options tree path jobs).2 = .ok report) :
    Plan.Escapes config options tree ((path, jobs) :: plan) error ↔
      Plan.Escapes config options (processFile config options tree path jobs).1 plan error := by
  constructor
  · rintro ⟨before, item, after, reports, split, processed, escapesHere⟩
    cases before with
    | nil =>
        cases split
        rw [processFiles, exists_report_iff.mp ⟨report, reported⟩] at escapesHere
        cases escapesHere
    | cons _ before =>
        cases split
        rw [processFiles_cons_of_report reported] at processed escapesHere
        obtain ⟨laterReports, later, _⟩ := Except.map_eq_ok_iff.mp processed
        exact ⟨before, item, after, laterReports, rfl, later, escapesHere⟩
  · rintro ⟨before, item, after, reports, rfl, processed, escapesHere⟩
    refine ⟨(path, jobs) :: before, item, after, report :: reports, rfl, ?_, ?_⟩
    · rw [processFiles_cons_of_report reported, processed]
      rfl
    · rw [processFiles_cons_of_report reported]
      exact escapesHere

/-- A plan is not carried out to its end exactly if something escapes from a file of it. -/
theorem processFiles_eq_error_iff
    {error : FragmentError} :
    (processFiles config options tree plan).2 = .error error ↔
      plan.Escapes config options tree error := by
  induction plan generalizing tree with
  | nil =>
      constructor
      · intro failed
        cases failed
      · rintro ⟨before, item, after, _, split, _⟩
        exact (List.append_ne_nil_of_right_ne_nil _ (List.cons_ne_nil item after) split.symm).elim
  | cons first others inductionHypothesis =>
      obtain ⟨path, jobs⟩ := first
      cases escapes : config.escape? options.mode tree (path, jobs) with
      | some cause =>
          rw [processFiles_cons_of_escape? escapes, Except.error.injEq]
          exact (escapes_cons_of_escape? escapes).symm
      | none =>
          obtain ⟨report, reported⟩ := exists_report_iff.mpr escapes
          rw [processFiles_cons_of_report reported, Except.map_eq_error_iff, inductionHypothesis]
          exact (escapes_cons_of_report reported).symm

end Files

/-- A run rewrites every unlocked file once for each path that leads to it and is come to. -/
theorem files_processFiles
    (config : Config)
    {options : RunOptions}
    (writes : options.apply = true)
    (tree : FileNode)
    (plan : Plan) :
    (processFiles config options tree plan).1.outline = tree.outline ∧
      ∀ names,
        (processFiles config options tree plan).1.fileAt names =
          (tree.fileAt names).map fun content =>
            ((plan.reached config options tree).jobsAt tree names).foldl
              (fun content jobs => rewritten config options.mode jobs content) content := by
  induction plan generalizing tree with
  | nil =>
      refine ⟨rfl, fun names => ?_⟩
      cases found : tree.fileAt names <;> simp [processFiles, Plan.reached, Plan.jobsAt, found]
  | cons item others inductionHypothesis =>
      obtain ⟨path, jobs⟩ := item
      rw [Plan.reached]
      cases escapes : config.escape? options.mode tree (path, jobs) with
      | some error =>
          rw [processFiles_cons_of_escape? escapes]
          refine ⟨rfl, fun names => ?_⟩
          cases tree.fileAt names <;> simp [Plan.jobsAt]
      | none =>
          obtain ⟨report, reported⟩ := exists_report_iff.mpr escapes
          obtain ⟨sameOutline, filesAfter⟩ :=
            files_processFile writes tree path jobs
          obtain ⟨laterOutline, filesLater⟩ :=
            inductionHypothesis (processFile config options tree path jobs).1
          rw [processFiles_cons_of_report reported]
          refine ⟨laterOutline.trans sameOutline, fun names => ?_⟩
          have sameJobs : ∀ others : Plan,
              others.jobsAt (processFile config options tree path jobs).1 names =
                others.jobsAt tree names := by
            intro others
            simp only [Plan.jobsAt, FileNode.openPlace?_congr sameOutline]
          rw [filesLater, filesAfter, sameJobs]
          by_cases isOpen : tree.openPlace? path = some names
          · simp [Plan.jobsAt, isOpen, Function.comp_def]
          · simp [Plan.jobsAt, isOpen]

namespace Config

variable {config : Config} {only : List String} {tree : FileNode}

/-- A planned run leaves what carrying out its plan leaves, and reports the same. -/
theorem run_eq_of_plan
    {planning : Planning}
    (planned : config.plan tree only = .ok planning)
    (options : RunOptions) :
    config.run options only tree =
      ⟨(processFiles config options tree planning.plan).1,
        ((processFiles config options tree planning.plan).2.map fun files =>
          ⟨files, planning.unmatched.map Entry.label⟩).mapError .job⟩ := by
  rw [run, planned]

/-- A run fails exactly as its plan does, or with what escapes from a file of the plan. -/
theorem run_eq_error_iff
    {options : RunOptions}
    {error : RunError} :
    (config.run options only tree).result = .error error ↔
      (∃ cause, error = .plan cause ∧ config.plan tree only = .error cause) ∨
        ∃ cause planning,
          error = .job cause ∧
            config.plan tree only = .ok planning ∧
            planning.plan.Escapes config options tree cause := by
  cases planned : config.plan tree only with
  | error cause =>
      rw [run, planned]
      simp [eq_comm]
  | ok planning =>
      rw [run_eq_of_plan planned, Except.mapError_eq_error_iff]
      simp only [← processFiles_eq_error_iff]
      cases processed : (processFiles config options tree planning.plan).2 <;>
        simp [Except.map, processed, eq_comm]

/-- A planned run fails exactly with what escapes from a file of the plan. -/
theorem run_eq_error_iff_of_plan
    {options : RunOptions}
    {planning : Planning}
    (planned : config.plan tree only = .ok planning)
    {error : RunError} :
    (config.run options only tree).result = .error error ↔
      ∃ cause, error = .job cause ∧ planning.plan.Escapes config options tree cause := by
  rw [run_eq_error_iff, planned]
  simp

/-- A planned run that takes blocks out comes to its end. -/
theorem exists_run_strip
    {planning : Planning}
    (planned : config.plan tree only = .ok planning)
    (apply diff : Bool) :
    ∃ report,
      config.run ⟨.strip, apply, diff⟩ only tree =
        ⟨(processFiles config ⟨.strip, apply, diff⟩ tree planning.plan).1, .ok report⟩ := by
  rw [run_eq_of_plan planned]
  cases processed : (processFiles config ⟨.strip, apply, diff⟩ tree planning.plan).2 with
  | error cause =>
      obtain ⟨before, item, _, _, _, _, escapes⟩ := processFiles_eq_error_iff.mp processed
      rw [config.escape?_strip] at escapes
      cases escapes
  | ok files =>
      exact ⟨_, rfl⟩

end Config

end BlockSync
