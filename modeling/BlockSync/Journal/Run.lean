import BlockSync.Journal.Merge
import BlockSync.Run.Process

namespace BlockSync.Journal

/-!
# Records of runs

What a log tells about a run: the files of every entry, then for every file what its jobs did, and
whether it was written.
-/

/-- A rule of a filter in full. -/
def ruleText (rule : Glob.Rule) : String :=
  let included := match rule.expression with
    | none => "None"
    | some (negated, _) => Value.boolText (!negated)
  "GitWildMatchPattern(pattern=" ++ Text.quoted rule.text ++ ", include=" ++ included ++ ")"

/-- A filter in full. -/
def filterText (filter : Glob.Filter) : String :=
  "PathSpec(patterns=[" ++ ", ".intercalate (filter.map ruleText) ++ "], backend='best')"

/-- The record of looking up the files of an entry, if that is possible. -/
def ofTargets
    (tree : FileNode)
    (root : FilePath)
    (patterns : List String)
    (targets : List FilePath) :
    List LogRecord :=
  match Glob.Filter.parse patterns, tree.resolve root with
  | .ok filter, .ok root =>
      [⟨.trace, targetsResolved, "resolve_targets(" ++ root.text ++ ", " ++ filterText filter ++
        "): " ++ toString targets.length ++ " file(s)"⟩]
  | _, _ => []

/-- The records of an entry's place in a plan. -/
def ofEntry (tree : FileNode) (config : Config) (entry : Entry) : List LogRecord :=
  match entry.build .shipped, resolveTargets tree config.root entry.files config.exclude with
  | .ok _, .ok targets =>
      let unmatched :=
        if targets.isEmpty then
          [LogRecord.mk .warning entryUnmatched
            ("Fragment '" ++ entry.label ++ "': no files match " ++ listText entry.files)]
        else
          []
      ofTargets tree config.root entry.files targets ++ unmatched
  | _, _ => []

/-- The records of planning, up to the first entry that cannot be planned. -/
def ofPlanning (tree : FileNode) (config : Config) : Planning → List Entry → List LogRecord
  | _, [] => []
  | planning, entry :: others =>
      ofEntry tree config entry ++
        match planning.addEntry tree config entry with
        | .ok planning => ofPlanning tree config planning others
        | .error _ => []

/-- The records of carrying out a job, if it has values. -/
def ofJob (mode : RunMode) (shared : Table) (text : String) (job : Job) : List LogRecord :=
  match mode with
  | .strip => ofRemove text job.tag
  | .sync =>
      match job.values shared with
      | .error _ => []
      | .ok values => ofValues job.fragment values :: ofSync job.fragment text values

/-- The records of the jobs of a file, up to the first that fails; one that escapes has none. -/
def ofJobs
    (path : FilePath)
    (mode : RunMode)
    (shared : Table) :
    String → List Job → List LogRecord
  | _, [] => []
  | text, job :: others =>
      let subject := path.text ++ ": fragment '" ++ job.label ++ "' "
      ofJob mode shared text job ++
        match job.run mode shared text with
        | .error error =>
            if error.isExpected then
              [⟨.error, jobFailed, subject ++ "failed: " ++ error.message⟩]
            else
              []
        | .ok result =>
            ⟨.debug, jobDone, subject ++ "-> " ++ (Action.ofMerge result).text⟩ ::
              ofJobs path mode shared result.contents others

/-- The records of what becomes of a file that changes. -/
def ofChange
    (tree : FileNode)
    (root : FilePath)
    (options : RunOptions)
    (path : FilePath)
    (before after : String) :
    List LogRecord :=
  let label := diffLabel tree root path
  let shown :=
    if options.diff then
      [LogRecord.mk .trace diffMade ("Diff for " ++ label ++ ": " ++
        toString (Diff.unifiedLines before after label).length ++ " line(s)")]
    else
      []
  let written :=
    if options.apply then
      match tree.writeText path after with
      | .ok _ =>
          [LogRecord.mk .debug fileWritten ("Wrote " ++ toString (Text.encode after).size ++
            " bytes to " ++ path.text)]
      | .error error =>
          [LogRecord.mk .error fileUnwritable ("Cannot write " ++ path.text ++ ": " ++
            error.message)]
    else
      []
  shown ++ written

/-- The records of carrying out the jobs of a file. -/
def ofFile
    (config : Config)
    (options : RunOptions)
    (tree : FileNode)
    (path : FilePath)
    (jobs : List Job) :
    List LogRecord :=
  match tree.readText path with
  | .error error =>
      [⟨.error, fileUnreadable, "Cannot read " ++ path.text ++ ": " ++ error.message⟩]
  | .ok before =>
      ofJobs path options.mode config.values before jobs ++
        match (Job.runAll options.mode config.values before jobs).2 with
        | .error _ => []
        | .ok after =>
            if after = before then [] else ofChange tree config.root options path before after

/-- The records of carrying out a plan, up to a failure that escapes. -/
def ofPlan (config : Config) (options : RunOptions) : FileNode → Plan → List LogRecord
  | _, [] => []
  | tree, (path, jobs) :: others =>
      ofFile config options tree path jobs ++
        match processFile config options tree path jobs with
        | (_, .error _) => []
        | (tree, .ok _) => ofPlan config options tree others

/-- The records of planning and carrying out a configuration. -/
def ofRun
    (config : Config)
    (options : RunOptions)
    (only : List String)
    (tree : FileNode) :
    List LogRecord :=
  ofPlanning tree config ⟨[], []⟩ (config.selected only) ++
    match config.plan tree only with
    | .ok planning => ofPlan config options tree planning.plan
    | .error _ => []

end BlockSync.Journal
