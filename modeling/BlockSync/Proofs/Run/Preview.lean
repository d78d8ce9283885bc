import BlockSync.Proofs.Run.Plan
import BlockSync.Proofs.Run.Process

namespace BlockSync

/-!
# Previews

A run that writes rewrites the planned files whose jobs succeed and change their text, and no other
ones.  A run that does not write reports the same, although it reads the files as they were and the
other one reads files among which it has written some.  Both end early at the first file from which
a failure escapes, and then the files behind it are not rewritten either.
-/

/-- The text that a run gives to a planned file, if all its jobs succeed and the text differs. -/
def Config.rewrite?
    (config : Config)
    (mode : RunMode)
    (tree : FileNode)
    (item : FilePath × List Job) :
    Option String :=
  match tree.readText item.1 with
  | .error _ => none
  | .ok before =>
      match Job.foldAll mode config.values before item.2 with
      | .error _ => none
      | .ok after => if after = before then none else some after

/-- The outcome that is reported of a file that is not written. -/
def Outcome.previewed : Outcome → Outcome
  | .changed => .wouldChange
  | outcome => outcome

/-- The report on a file that is not written. -/
def FileReport.previewed (report : FileReport) : FileReport :=
  { report with outcome := report.outcome.previewed }

/-- The report on a run that does not write. -/
def RunReport.previewed (report : RunReport) : RunReport :=
  { report with files := report.files.map FileReport.previewed }

/-- Whether two paths do not lead to one file. -/
def FileNode.LeadsApart (tree : FileNode) (path other : FilePath) : Prop :=
  ∀ names, tree.place? path = some names → tree.place? other ≠ some names

/-- Whether different paths of a plan lead to different files. -/
def Plan.LeadsApart (plan : Plan) (tree : FileNode) : Prop :=
  ∀ item ∈ plan, ∀ other ∈ plan, item.1 ≠ other.1 → tree.LeadsApart item.1 other.1

/-- Whether a file to which a run gives another text can be written. -/
def Config.CanWrite
    (config : Config)
    (mode : RunMode)
    (tree : FileNode)
    (item : FilePath × List Job) :
    Prop :=
  ∀ final, config.rewrite? mode tree item = some final →
    ∃ names, tree.openPlace? item.1 = some names

section File

variable {config : Config} {mode : RunMode} {diff : Bool} {tree other : FileNode}
  {path : FilePath} {jobs : List Job}

/-- The bytes in a place after the jobs of a path are those of the text that the run gives to it. -/
theorem rewritten_eq
    {names : List String}
    {content : ByteArray}
    (isPlace : tree.place? path = some names)
    (present : tree.fileAt names = some content) :
    rewritten config mode jobs content =
      ((config.rewrite? mode tree (path, jobs)).map Text.encode).getD content := by
  rw [Config.rewrite?, FileNode.readText_of_place? isPlace present]
  cases decoded : Text.decode content with
  | error error =>
      exact rewritten_of_error decoded
  | ok before =>
      simp only [Except.mapError, Job.foldAll_eq]
      cases ran : (Job.runAll mode config.values before jobs).2 with
      | error error =>
          exact rewritten_of_failed decoded ran
      | ok after =>
          rw [rewritten_of_done decoded ran]
          by_cases same : after = before
          · simpa [same] using Text.encode_of_decode decoded
          · simp [same]

/-- The text of a file that its jobs leave in another state is the one that a run gives to it. -/
theorem rewrite?_eq_some
    {before after : String}
    {reports : List JobReport}
    (isRead : tree.readText path = .ok before)
    (ran : Job.runAll mode config.values before jobs = (reports, .ok after))
    (differs : after ≠ before) :
    config.rewrite? mode tree (path, jobs) = some after := by
  simp [Config.rewrite?, isRead, Job.foldAll_eq, ran, differs]

/-- Without writing, the jobs of a path keep the files, and the report is that of a preview. -/
theorem processFile_previewed
    (canWrite : config.CanWrite mode tree (path, jobs))
    (diff : Bool) :
    processFile config ⟨mode, false, diff⟩ tree path jobs =
      (tree,
        (processFile config ⟨mode, true, diff⟩ tree path jobs).2.map FileReport.previewed) := by
  rw [processFile, processFile]
  cases jobsEnd mode config.values tree path jobs with
  | unread error unread =>
      simp [unread, Except.map, FileReport.previewed, Outcome.previewed]
  | failed before reports error isRead ran expected =>
      simp [isRead, ran, expected, Except.map, FileReport.previewed, Outcome.previewed]
  | escaped before reports error isRead ran unexpected =>
      simp [isRead, ran, unexpected, Except.map]
  | same before reports isRead ran =>
      simp [isRead, ran, finishedReport, Except.map, FileReport.previewed, Outcome.previewed]
  | differs before reports after isRead ran differs =>
      obtain ⟨names, isOpen⟩ := canWrite after (rewrite?_eq_some isRead ran differs)
      simp [isRead, ran, differs, finishedReport, FileNode.writeText,
        FileNode.write_of_openPlace? isOpen, Except.map, FileReport.previewed, Outcome.previewed]

/-- A run that writes reports a file as changed exactly if it gives it another text. -/
theorem outcome_processFile
    {report : FileReport}
    (canWrite : config.CanWrite mode tree (path, jobs))
    (reported : (processFile config ⟨mode, true, diff⟩ tree path jobs).2 = .ok report) :
    (report.outcome = .changed ↔ (config.rewrite? mode tree (path, jobs)).isSome = true) ∧
      report.outcome ≠ .wouldChange := by
  rw [processFile] at reported
  rw [Config.rewrite?]
  cases jobsEnd mode config.values tree path jobs with
  | unread error unread =>
      rw [unread] at reported
      cases reported
      simp [unread]
  | failed before reports error isRead ran expected =>
      simp only [isRead, ran, expected, ↓reduceIte] at reported
      cases reported
      simp [isRead, Job.foldAll_eq, ran]
  | escaped before reports error isRead ran unexpected =>
      simp [isRead, ran, unexpected] at reported
  | same before reports isRead ran =>
      simp only [isRead, ran, ne_eq, not_true_eq_false, decide_false, Bool.and_false,
        Bool.false_eq_true, ↓reduceIte] at reported
      cases reported
      simp [isRead, Job.foldAll_eq, ran, finishedReport]
  | differs before reports after isRead ran differs =>
      obtain ⟨names, isOpen⟩ := canWrite after (rewrite?_eq_some isRead ran differs)
      simp only [isRead, ran, differs, ne_eq, not_false_eq_true, decide_true, Bool.and_true,
        ↓reduceIte, FileNode.writeText, FileNode.write_of_openPlace? isOpen] at reported
      cases reported
      simp [isRead, Job.foldAll_eq, ran, differs, finishedReport]

/-- What escapes from a planned file depends on the text that it has. -/
theorem escape?_congr
    {item : FilePath × List Job}
    (sameText : tree.readText item.1 = other.readText item.1) :
    config.escape? mode tree item = config.escape? mode other item := by
  rw [Config.escape?, Config.escape?, sameText]

/-- The report on a file depends on its text and on which files there are. -/
theorem report_processFile_congr
    {options : RunOptions}
    (sameOutline : tree.outline = other.outline)
    (sameText : tree.readText path = other.readText path)
    (canWrite : config.CanWrite options.mode other (path, jobs)) :
    (processFile config options tree path jobs).2 =
      (processFile config options other path jobs).2 := by
  have sameLabel :
      diffLabel tree config.root path = diffLabel other config.root path := by
    rw [diffLabel, diffLabel, FileNode.relativePath_congr sameOutline]
  rw [processFile, processFile, sameText]
  cases jobsEnd options.mode config.values other path jobs with
  | unread error unread =>
      rw [unread]
  | failed before reports error isRead ran expected =>
      simp only [isRead, ran, expected, ↓reduceIte]
  | escaped before reports error isRead ran unexpected =>
      simp [isRead, ran, unexpected]
  | same before reports isRead ran =>
      simp [isRead, ran, finishedReport]
  | differs before reports after isRead ran differs =>
      obtain ⟨names, isOpen⟩ := canWrite after (rewrite?_eq_some isRead ran differs)
      have alsoOpen := isOpen
      rw [← FileNode.openPlace?_congr sameOutline] at alsoOpen
      simp only [isRead, ran, finishedReport, fileDiff, sameLabel, FileNode.writeText,
        FileNode.write_of_openPlace? isOpen, FileNode.write_of_openPlace? alsoOpen]
      split <;> rfl

/-- Whether a run writes or not, the jobs of a path touch no place that it does not lead to. -/
theorem fileAt_processFile_of_ne
    {options : RunOptions}
    {names : List String}
    (elsewhere : tree.place? path ≠ some names) :
    (processFile config options tree path jobs).1.fileAt names = tree.fileAt names := by
  cases writes : options.apply with
  | false =>
      rw [processFile_of_not_apply writes]
  | true =>
      have notOpen : tree.openPlace? path ≠ some names := fun isOpen =>
        elsewhere (FileNode.place?_of_openPlace? isOpen)
      rw [(files_processFile writes tree path jobs).2, if_neg notOpen]

/-- Whether a run writes or not, the jobs of a path keep the outline. -/
theorem outline_processFile
    (config : Config)
    (options : RunOptions)
    (tree : FileNode)
    (path : FilePath)
    (jobs : List Job) :
    (processFile config options tree path jobs).1.outline = tree.outline := by
  cases writes : options.apply with
  | false =>
      rw [processFile_of_not_apply writes]
  | true =>
      exact (files_processFile writes tree path jobs).1

/-- A path that leads elsewhere is read as before the jobs of another one. -/
theorem readText_processFile_of_apart
    {options : RunOptions}
    {otherPath : FilePath}
    (apart : tree.LeadsApart path otherPath) :
    (processFile config options tree path jobs).1.readText otherPath =
      tree.readText otherPath := by
  have sameRead :
      (processFile config options tree path jobs).1.read otherPath = tree.read otherPath := by
    apply FileNode.read_congr_of_place (outline_processFile config options tree path jobs)
    intro names isPlace
    rw [FileNode.place?_congr (outline_processFile config options tree path jobs)] at isPlace
    exact fileAt_processFile_of_ne fun same => apart names same isPlace
  rw [FileNode.readText, FileNode.readText, sameRead]

end File

section Run

variable {config : Config} {plan : Plan} {tree current : FileNode}

/-- Where paths lead apart depends on which files there are. -/
theorem FileNode.leadsApart_congr
    (same : current.outline = tree.outline)
    {path other : FilePath}
    (apart : tree.LeadsApart path other) :
    current.LeadsApart path other := by
  intro names isPlace
  rw [FileNode.place?_congr same] at isPlace ⊢
  exact apart names isPlace

/-- No two entries of a plan lead to one file, if no two paths do. -/
theorem Plan.LeadsApart.pairwise
    (apart : plan.LeadsApart tree)
    (distinct : plan.Distinct) :
    plan.Pairwise fun item other => tree.LeadsApart item.1 other.1 := by
  have different : plan.Pairwise fun item other => item.1 ≠ other.1 :=
    List.pairwise_map.mp distinct
  exact different.imp_of_mem fun isItem isOther differ => apart _ isItem _ isOther differ

/-- Only one path of a plan leads to a place. -/
theorem Plan.jobsAt_of_mem
    {item : FilePath × List Job}
    {names : List String}
    (apart : plan.Pairwise fun item other => tree.LeadsApart item.1 other.1)
    (member : item ∈ plan)
    (isOpen : tree.openPlace? item.1 = some names) :
    plan.jobsAt tree names = [item.2] := by
  obtain ⟨above, below, rfl⟩ := List.append_of_mem member
  rw [List.pairwise_append, List.pairwise_cons] at apart
  obtain ⟨_, ⟨fromBelow, _⟩, fromAbove⟩ := apart
  have isPlace := FileNode.place?_of_openPlace? isOpen
  have noneAbove :
      above.filter (fun other => tree.openPlace? other.1 = some names) = [] := by
    rw [List.filter_eq_nil_iff]
    intro other isAbove leadsThere
    exact fromAbove other isAbove item List.mem_cons_self names
      (FileNode.place?_of_openPlace? (by simpa using leadsThere)) isPlace
  have noneBelow :
      below.filter (fun other => tree.openPlace? other.1 = some names) = [] := by
    rw [List.filter_eq_nil_iff]
    intro other isBelow leadsThere
    exact fromBelow other isBelow names isPlace
      (FileNode.place?_of_openPlace? (by simpa using leadsThere))
  rw [Plan.jobsAt, List.filter_append, noneAbove, List.filter_cons, if_pos (by simpa using isOpen),
    noneBelow]
  rfl

/-- The files of a plan in front of the first one from which a failure escapes. -/
def Plan.unescaped (plan : Plan) (config : Config) (mode : RunMode) (tree : FileNode) : Plan :=
  plan.takeWhile fun item => (config.escape? mode tree item).isNone

/-- The texts of the files that are still to come are those of the tree before the run. -/
structure Plan.Unchanged (plan : Plan) (tree current : FileNode) : Prop where
  apart :
    plan.Pairwise fun item other => tree.LeadsApart item.1 other.1
  sameOutline :
    current.outline = tree.outline
  sameTexts :
    ∀ item ∈ plan, current.readText item.1 = tree.readText item.1

/-- The texts of the other files are as before once the first file has been processed. -/
theorem Plan.Unchanged.next
    {item : FilePath × List Job}
    (unchanged : Plan.Unchanged (item :: plan) tree current)
    (config : Config)
    (options : RunOptions) :
    plan.Unchanged tree (processFile config options current item.1 item.2).1 := by
  obtain ⟨apart, sameOutline, sameTexts⟩ := unchanged
  rw [List.pairwise_cons] at apart
  rw [List.forall_mem_cons] at sameTexts
  refine
    ⟨apart.2, (outline_processFile config options current item.1 item.2).trans sameOutline,
      fun other member => ?_⟩
  have fromHere := FileNode.leadsApart_congr sameOutline (apart.1 other member)
  rw [readText_processFile_of_apart fromHere, sameTexts.2 other member]

/-- What a run comes to can be told from the files as they were before the run. -/
theorem Plan.reached_eq_unescaped
    (options : RunOptions)
    (unchanged : plan.Unchanged tree current) :
    plan.reached config options current = plan.unescaped config options.mode tree := by
  induction plan generalizing current with
  | nil =>
      rfl
  | cons item others inductionHypothesis =>
      have sameText := unchanged.sameTexts item List.mem_cons_self
      rw [reached, unescaped, List.takeWhile_cons, escape?_congr sameText]
      cases config.escape? options.mode tree item with
      | some error =>
          rfl
      | none =>
          rw [inductionHypothesis (unchanged.next config options)]
          rfl

/-- Each report of a run is that on the file as it was before the run. -/
theorem reports_processFiles
    (options : RunOptions)
    (unchanged : plan.Unchanged tree current)
    (canWrite : ∀ item ∈ plan, config.CanWrite options.mode tree item) :
    (processFiles config options current plan).2 =
      plan.mapM fun item => (processFile config options tree item.1 item.2).2 := by
  induction plan generalizing current with
  | nil =>
      rfl
  | cons item others inductionHypothesis =>
      obtain ⟨path, jobs⟩ := item
      rw [List.forall_mem_cons] at canWrite
      have sameText : current.readText path = tree.readText path :=
        unchanged.sameTexts (path, jobs) List.mem_cons_self
      have sameReport := report_processFile_congr unchanged.sameOutline sameText canWrite.1
      have later := inductionHypothesis (unchanged.next config options) canWrite.2
      rw [List.mapM_cons]
      cases reported : (processFile config options tree path jobs).2 with
      | error error =>
          rw [processFile_eq_error_iff, ← escape?_congr sameText] at reported
          rw [processFiles_cons_of_escape? reported]
          rfl
      | ok report =>
          rw [reported] at sameReport
          rw [processFiles_cons_of_report sameReport, later]
          cases others.mapM fun item => (processFile config options tree item.1 item.2).2 <;> rfl

/-- A run fails with the first failure that escapes from a file as it was before the run. -/
theorem processFiles_eq_error_iff_findSome?
    {options : RunOptions}
    {error : FragmentError}
    (unchanged : plan.Unchanged tree current)
    (canWrite : ∀ item ∈ plan, config.CanWrite options.mode tree item) :
    (processFiles config options current plan).2 = .error error ↔
      plan.findSome? (config.escape? options.mode tree) = some error := by
  have escapes :
      (fun item => (processFile config options tree item.1 item.2).2.error?) =
        config.escape? options.mode tree := by
    funext item
    apply Option.ext
    intro cause
    rw [Except.error?_eq_some_iff, processFile_eq_error_iff]
  rw [reports_processFiles options unchanged canWrite, Except.mapM_eq_error_iff, escapes]

/-- A run that does not write leaves the tree as it was. -/
theorem processFiles_of_not_apply
    {options : RunOptions}
    (dry : options.apply = false)
    (tree : FileNode)
    (plan : Plan) :
    (processFiles config options tree plan).1 = tree := by
  induction plan generalizing tree with
  | nil =>
      rfl
  | cons item others inductionHypothesis =>
      obtain ⟨path, jobs⟩ := item
      cases escapes : config.escape? options.mode tree (path, jobs) with
      | some error =>
          rw [processFiles_cons_of_escape? escapes]
      | none =>
          obtain ⟨report, reported⟩ := exists_report_iff.mpr escapes
          rw [processFiles_cons_of_report reported]
          exact (inductionHypothesis _).trans (processFile_of_not_apply dry tree path jobs)

/-- A place holds the text that the run gives to the file in it, or else what it held before. -/
theorem fileAt_processFiles
    {options : RunOptions}
    (writes : options.apply = true)
    (apart : plan.Pairwise fun item other => tree.LeadsApart item.1 other.1)
    (canWrite : ∀ item ∈ plan, config.CanWrite options.mode tree item)
    (names : List String) :
    (∀ item ∈ plan.unescaped config options.mode tree, ∀ final,
        tree.place? item.1 = some names →
          config.rewrite? options.mode tree item = some final →
          (processFiles config options tree plan).1.fileAt names = some (Text.encode final)) ∧
      ((∀ item ∈ plan.unescaped config options.mode tree,
          tree.place? item.1 = some names → config.rewrite? options.mode tree item = none) →
        (processFiles config options tree plan).1.fileAt names = tree.fileAt names) := by
  have files := (files_processFiles config writes tree plan).2 names
  rw [Plan.reached_eq_unescaped options ⟨apart, rfl, fun _ _ => rfl⟩] at files
  have reachedApart :=
    apart.sublist (List.takeWhile_sublist fun item =>
      (config.escape? options.mode tree item).isNone)
  rw [← Plan.unescaped] at reachedApart
  constructor
  · intro item member final isPlace isRewritten
    obtain ⟨other, isOpen⟩ :=
      canWrite item ((List.takeWhile_sublist _).subset member) final isRewritten
    obtain rfl : other = names :=
      Option.some.inj ((FileNode.place?_of_openPlace? isOpen).symm.trans isPlace)
    obtain ⟨content, _, present, _⟩ := FileNode.exists_fileAt isPlace
    rw [files, Plan.jobsAt_of_mem reachedApart member isOpen, present, Option.map_some,
      List.foldl_cons, List.foldl_nil, rewritten_eq isPlace present, isRewritten]
    rfl
  · intro untouched
    rw [files]
    cases present : tree.fileAt names with
    | none =>
        rfl
    | some content =>
        rw [Option.map_some, Option.some.injEq]
        by_cases planned :
            ∃ item ∈ plan.unescaped config options.mode tree, tree.openPlace? item.1 = some names
        · obtain ⟨item, member, isOpen⟩ := planned
          have isPlace := FileNode.place?_of_openPlace? isOpen
          rw [Plan.jobsAt_of_mem reachedApart member isOpen, List.foldl_cons, List.foldl_nil,
            rewritten_eq isPlace present, untouched item member isPlace]
          rfl
        · have noJobs : (plan.unescaped config options.mode tree).jobsAt tree names = [] := by
            rw [Plan.jobsAt, List.map_eq_nil_iff, List.filter_eq_nil_iff]
            intro item member leadsThere
            exact planned ⟨item, member, by simpa using leadsThere⟩
          rw [noJobs, List.foldl_nil]

end Run

/-- What the report on a run that writes says of how many files it has written. -/
structure RunReport.Counts (report : RunReport) (written : Nat) : Prop where
  previewWritesNone :
    report.previewed.written = 0
  countsRewritten :
    report.written = written
  noneWouldChange :
    report.count .wouldChange = 0

/--
What a run that writes does to the files of a tree, and that a run that does not write reports the
same, or fails with the same failure that escapes.
-/
structure Config.Foretold
    (config : Config)
    (mode : RunMode)
    (diff : Bool)
    (only : List String)
    (tree : FileNode)
    (plan : Plan)
    (after : FileNode)
    (result : Except RunError RunReport) :
    Prop where
  applied :
    config.run ⟨mode, true, diff⟩ only tree = ⟨after, result⟩
  previewed :
    config.run ⟨mode, false, diff⟩ only tree = ⟨tree, result.map RunReport.previewed⟩
  fails_iff :
    ∀ error, result = .error error ↔
      ∃ cause, error = .job cause ∧ plan.findSome? (config.escape? mode tree) = some cause
  counted :
    ∀ report, result = .ok report →
      report.Counts (plan.countP fun item => (config.rewrite? mode tree item).isSome)
  sameOutline :
    after.outline = tree.outline
  rewritten :
    ∀ item ∈ plan.unescaped config mode tree, ∀ final,
      config.rewrite? mode tree item = some final →
        ∃ names,
          tree.place? item.1 = some names ∧ after.fileAt names = some (Text.encode final)
  kept :
    ∀ names,
      (∀ item ∈ plan.unescaped config mode tree,
          tree.place? item.1 = some names → config.rewrite? mode tree item = none) →
        after.fileAt names = tree.fileAt names

/-- Reports on a run that does not write name the written files as files that would change. -/
theorem RunReport.count_previewed (report : RunReport) :
    report.previewed.count .changed = 0 ∧
      report.previewed.count .wouldChange =
        report.count .wouldChange + report.count .changed ∧
      report.previewed.hadErrors = report.hadErrors := by
  simp only [RunReport.count, RunReport.hadErrors, RunReport.previewed]
  induction report.files with
  | nil =>
      decide
  | cons file others inductionHypothesis =>
      obtain ⟨noneChanged, wouldChange, errors⟩ := inductionHypothesis
      simp only [List.map_cons, List.countP_cons, List.any_cons, noneChanged, wouldChange, errors,
        FileReport.previewed]
      cases file.outcome <;> simp [Outcome.previewed] <;> omega

/-- A file that a run gives another text is one that a path leads to. -/
theorem Config.exists_place_of_rewrite?
    {config : Config}
    {mode : RunMode}
    {tree : FileNode}
    {item : FilePath × List Job}
    {final : String}
    (isRewritten : config.rewrite? mode tree item = some final) :
    ∃ names, tree.place? item.1 = some names := by
  cases isPlace : tree.place? item.1 with
  | some names =>
      exact ⟨names, rfl⟩
  | none =>
      obtain ⟨error, unread⟩ := FileNode.readText_of_place?_eq_none isPlace
      rw [Config.rewrite?, unread] at isRewritten
      cases isRewritten

section Reports

variable {config : Config} {mode : RunMode} {diff : Bool} {tree : FileNode} {plan : Plan}

/-- The reports on all files without writing are the previews of those with writing. -/
theorem mapM_processFile_previewed
    (canWrite : ∀ item ∈ plan, config.CanWrite mode tree item)
    (diff : Bool) :
    (plan.mapM fun item => (processFile config ⟨mode, false, diff⟩ tree item.1 item.2).2) =
      (plan.mapM fun item => (processFile config ⟨mode, true, diff⟩ tree item.1 item.2).2).map
        (List.map FileReport.previewed) := by
  induction plan with
  | nil =>
      rfl
  | cons item others inductionHypothesis =>
      rw [List.forall_mem_cons] at canWrite
      rw [List.mapM_cons, List.mapM_cons, inductionHypothesis canWrite.2,
        processFile_previewed canWrite.1]
      cases (processFile config ⟨mode, true, diff⟩ tree item.1 item.2).2 with
      | error error =>
          rfl
      | ok report =>
          cases others.mapM fun item => (processFile config ⟨mode, true, diff⟩ tree item.1 item.2).2
            <;> rfl

/-- The reports on all files count those that the run gives another text as changed. -/
theorem countP_of_mapM_processFile
    {reports : List FileReport}
    (canWrite : ∀ item ∈ plan, config.CanWrite mode tree item)
    (reported :
      (plan.mapM fun item => (processFile config ⟨mode, true, diff⟩ tree item.1 item.2).2) =
        .ok reports) :
    (reports.countP fun report => report.outcome == .changed) =
        (plan.countP fun item => (config.rewrite? mode tree item).isSome) ∧
      (reports.countP fun report => report.outcome == .wouldChange) = 0 := by
  induction plan generalizing reports with
  | nil =>
      cases reported
      exact ⟨rfl, rfl⟩
  | cons item others inductionHypothesis =>
      rw [List.forall_mem_cons] at canWrite
      rw [List.mapM_cons, Except.bind_eq_ok_iff] at reported
      obtain ⟨report, reportedFirst, reported⟩ := reported
      rw [Except.bind_eq_ok_iff] at reported
      obtain ⟨rest, reportedOthers, same⟩ := reported
      cases same
      obtain ⟨changed, wouldChange⟩ := inductionHypothesis canWrite.2 reportedOthers
      obtain ⟨changed_iff, notWouldChange⟩ := outcome_processFile canWrite.1 reportedFirst
      rw [List.countP_cons, List.countP_cons, List.countP_cons, changed, wouldChange]
      refine ⟨?_, by simpa using notWouldChange⟩
      congr 1
      simp only [beq_iff_eq, changed_iff]

end Reports

/--
A run without writing foretells one with writing, if different paths lead to different files and
every file that is given another text can be written.
-/
theorem Config.exists_foretold
    {config : Config}
    {only : List String}
    {tree : FileNode}
    {planning : Planning}
    {mode : RunMode}
    (planned : config.plan tree only = .ok planning)
    (apart : planning.plan.LeadsApart tree)
    (canWrite : ∀ item ∈ planning.plan, config.CanWrite mode tree item)
    (diff : Bool) :
    ∃ after result, config.Foretold mode diff only tree planning.plan after result := by
  have pairwise := apart.pairwise (Config.distinct_plan planned)
  have writes : RunOptions.apply ⟨mode, true, diff⟩ = true :=
    rfl
  have unchanged : planning.plan.Unchanged tree tree :=
    ⟨pairwise, rfl, fun _ _ => rfl⟩
  have files := fileAt_processFiles writes pairwise canWrite
  have wetReports := reports_processFiles ⟨mode, true, diff⟩ unchanged canWrite
  have dryReports := reports_processFiles ⟨mode, false, diff⟩ unchanged canWrite
  have failures : ∀ cause,
      (processFiles config ⟨mode, true, diff⟩ tree planning.plan).2 = .error cause ↔ _ :=
    fun _ => processFiles_eq_error_iff_findSome? unchanged canWrite
  have dryTree :
      (processFiles config ⟨mode, false, diff⟩ tree planning.plan).1 = tree :=
    processFiles_of_not_apply rfl tree planning.plan
  have applied := Config.run_eq_of_plan planned ⟨mode, true, diff⟩
  have previewed := Config.run_eq_of_plan planned ⟨mode, false, diff⟩
  rw [dryTree, dryReports, mapM_processFile_previewed canWrite, ← wetReports] at previewed
  refine ⟨_, _, ⟨applied, ?_, fun error => ?_, fun report isReport => ?_, ?_, ?_, ?_⟩⟩
  · rw [previewed]
    cases (processFiles config ⟨mode, true, diff⟩ tree planning.plan).2 <;> rfl
  · rw [Except.mapError_eq_error_iff]
    refine exists_congr fun cause => ?_
    rw [Except.map_eq_error_iff, failures, and_comm, eq_comm]
  · rw [Except.mapError_eq_ok_iff, Except.map_eq_ok_iff] at isReport
    obtain ⟨reports, reported, rfl⟩ := isReport
    rw [wetReports] at reported
    obtain ⟨changed, wouldChange⟩ := countP_of_mapM_processFile canWrite reported
    exact ⟨(RunReport.count_previewed _).1, changed, wouldChange⟩
  · exact (files_processFiles config writes tree planning.plan).1
  · intro item member final isRewritten
    obtain ⟨names, isPlace⟩ := Config.exists_place_of_rewrite? isRewritten
    exact ⟨names, isPlace, (files names).1 item member final isPlace isRewritten⟩
  · exact fun names => (files names).2

end BlockSync
