import BlockSync.Diff.Unified
import BlockSync.FileTree.Text
import BlockSync.Run.Plan
import BlockSync.Run.Report

namespace BlockSync

/-!
# Carrying out a plan

A file is read once, its jobs work on the text one after another, and it is written only if the
text differs in the end. The first job that fails ends the work on its file, which stays as it was.
A failure that jobs are meant to have is reported, and so is that of reading or writing the file.
Any other failure escapes: it ends the whole run, with the files written that far.
-/

/-- Whether blocks are brought up to date or taken out. -/
inductive RunMode where
  | sync
  | strip
  deriving Repr, DecidableEq

/-- How a plan is carried out: in which mode, whether files are written, and with which diffs. -/
structure RunOptions where
  mode : RunMode
  apply : Bool
  diff : Bool
  deriving Repr, DecidableEq

namespace Job

/-- The values that a job has, given the shared ones. -/
def values (job : Job) (shared : Table) : Except FragmentError PayloadValues :=
  job.fragment.extractValues (job.entry.effectiveValues shared)

/-- Carries out a job on a text. -/
def run
    (job : Job)
    (mode : RunMode)
    (shared : Table)
    (text : String) :
    Except FragmentError MergeResult :=
  match mode with
  | .sync => do job.fragment.sync text (← job.values shared)
  | .strip => job.fragment.remove text

/-- The report on a job that did something. -/
def report (job : Job) (action : Action) (message : Option String) : JobReport :=
  ⟨job.label, job.tag, action, message⟩

/-- Carries out jobs one after another, up to the first that fails. -/
def runAll
    (mode : RunMode)
    (shared : Table) :
    String → List Job → List JobReport × Except FragmentError String
  | text, [] => ([], .ok text)
  | text, job :: others =>
      match job.run mode shared text with
      | .error error => ([job.report .failed (some error.message)], .error error)
      | .ok result =>
          let (reports, final) := runAll mode shared result.contents others
          (job.report (.ofMerge result) none :: reports, final)

end Job

/-- The name of a file in its diff: its path from the root. -/
def diffLabel (tree : FileNode) (root path : FilePath) : String :=
  match tree.relativePath path root with
  | .ok relative => relative.text
  | .error _ => path.text

/-- The diff of a file. -/
def fileDiff (tree : FileNode) (root path : FilePath) (before after : String) : String :=
  Diff.unified before after (diffLabel tree root path)

/-- The report on a file whose jobs all succeeded. -/
def finishedReport
    (tree : FileNode)
    (root : FilePath)
    (options : RunOptions)
    (path : FilePath)
    (jobs : List JobReport)
    (before after : String) :
    FileReport :=
  let changes := after ≠ before
  {
    path := path
    outcome := if !changes then .unchanged else if options.apply then .changed else .wouldChange
    jobs := jobs
    diff := if options.diff && changes then some (fileDiff tree root path before after) else none
    message := none
  }

/-- The report on a file that could not be written, though all its jobs succeeded. -/
def FileReport.unwritten (report : FileReport) (error : FileError) : FileReport :=
  { report with outcome := .error, message := some ("cannot write file: " ++ error.message) }

/-- Carries out the jobs of a file. A failure that is not expected escapes. -/
def processFile
    (config : Config)
    (options : RunOptions)
    (tree : FileNode)
    (path : FilePath)
    (jobs : List Job) :
    FileNode × Except FragmentError FileReport :=
  match tree.readText path with
  | .error error =>
      (tree, .ok ⟨path, .error, [], none, some ("cannot read file: " ++ error.message)⟩)
  | .ok before =>
      match Job.runAll options.mode config.values before jobs with
      | (reports, .error error) =>
          if error.isExpected then
            (tree, .ok ⟨path, .error, reports, none, some error.message⟩)
          else
            (tree, .error error)
      | (reports, .ok after) =>
          let report := finishedReport tree config.root options path reports before after
          if options.apply && after ≠ before then
            match tree.writeText path after with
            | .ok tree => (tree, .ok report)
            | .error error => (tree, .ok (report.unwritten error))
          else
            (tree, .ok report)

/-- Carries out the jobs of some files, one file after another, up to a failure that escapes. -/
def processFiles
    (config : Config)
    (options : RunOptions) :
    FileNode → Plan → FileNode × Except FragmentError (List FileReport)
  | tree, [] => (tree, .ok [])
  | tree, (path, jobs) :: others =>
      match processFile config options tree path jobs with
      | (tree, .error error) => (tree, .error error)
      | (tree, .ok report) =>
          let (tree, reports) := processFiles config options tree others
          (tree, reports.map (report :: ·))

/-- Why a run came to no end: there is no plan for it, or a failure of a job escaped. -/
inductive RunError where
  | plan (error : PlanError)
  | job (error : FragmentError)
  deriving Repr, DecidableEq

/-- A run: the files that it leaves behind, and its report if it came to an end. -/
structure Run where
  tree : FileNode
  result : Except RunError RunReport

namespace Config

/-- Plans and carries out a configuration, for the entries with the given labels. -/
def run
    (config : Config)
    (options : RunOptions)
    (only : List String)
    (tree : FileNode) :
    Run :=
  match config.plan tree only with
  | .error error => ⟨tree, .error (.plan error)⟩
  | .ok planning =>
      let (tree, files) := processFiles config options tree planning.plan
      let labels := planning.unmatched.map Entry.label
      ⟨tree, (files.map fun files => ⟨files, labels⟩).mapError .job⟩

end Config

end BlockSync
