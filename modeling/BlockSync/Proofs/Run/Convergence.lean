import BlockSync.Proofs.FileTree.Place
import BlockSync.Proofs.Run.Progress

namespace BlockSync

/-!
# Convergence of a run

Once the jobs of a file have been carried out, every block that is wanted is current and every
other one is gone.  Carrying out the same jobs again finds nothing to do.
-/

namespace Job

variable {shared : Table} {text : String}

/-- A settled job does nothing. -/
theorem Settled.run
    {job : Job}
    (settled : Settled shared (Text.lines text) job)
    (named : IsTagName job.tag) :
    job.run .sync shared text = .ok (.unchanged text) := by
  have sameName : (⟨job.tag, named⟩ : Tag).name = job.tag :=
    rfl
  have tagFound := Block.named?_eq sameName (Text.lines text)
  rw [run_sync_eq_ok_iff]
  obtain ⟨complete, decided⟩ := settled.decided
  cases complete with
  | true =>
      obtain ⟨payload, block, rendered, found, current⟩ := settled.current decided
      rw [tagFound] at found
      exact .merged ⟨job.tag, named⟩ payload _ rfl decided rendered (.kept block found current)
  | false =>
      have absent := settled.absent decided
      rw [tagFound] at absent
      have same : MergeResult.unchanged text = Merge.removeTagged text ⟨job.tag, named⟩ := by
        rw [Merge.removeTagged, absent]
      rw [same]
      exact .removed ⟨job.tag, named⟩ rfl decided

/--
Jobs that do not get in each other's way in a text: their blocks share no line, none of them is
anchored in the block of another one, and one that takes its block out has no begin marker besides.
-/
structure Separate (shared : Table) (text : String) (jobs : List Job) : Prop where
  distinct :
    jobs.Pairwise fun first second => first.tag ≠ second.tag
  traceable :
    ∀ job ∈ jobs, job.Traceable shared
  apart :
    ∀ job ∈ jobs, ∀ other ∈ jobs, other.tag ≠ job.tag →
      ∀ block, Block.named? job.tag (Text.lines text) = some block →
        ∀ otherBlock, Block.named? other.tag (Text.lines text) = some otherBlock →
          block.Apart otherBlock
  unanchored :
    ∀ job ∈ jobs, ∀ other ∈ jobs, other.tag ≠ job.tag →
      ∀ block, Block.named? job.tag (Text.lines text) = some block →
        ∀ line ∈ block.linesIn (Text.lines text),
          other.fragment.anchor.matchesLine line = false
  single :
    ∀ job ∈ jobs, job.isComplete shared = .ok false →
      ∀ tag : Tag, tag.name = job.tag →
        (Text.lines text).countP (Marker.isBegin tag) ≤ 1

/-- Separate jobs that all succeed leave nothing to do. -/
theorem Separate.settled
    {jobs : List Job}
    {final : String}
    (separate : Separate shared text jobs)
    (ran : (runAll .sync shared text jobs).2 = .ok final) :
    ∀ job ∈ jobs, job.Settled shared (Text.lines final) := by
  have start : Progress shared [] jobs (Text.lines text) :=
    ⟨by simp, separate.apart, separate.unanchored, separate.single⟩
  exact (start.runAll ran separate.traceable separate.distinct).settled

end Job

section File

variable
  {config : Config}
  {options : RunOptions}
  {tree : FileNode}
  {path : FilePath}
  {jobs : List Job}
  {text : String}

/-- The report on a file whose jobs all succeeded is no error. -/
theorem outcome_finishedReport
    (tree : FileNode)
    (root : FilePath)
    (options : RunOptions)
    (path : FilePath)
    (reports : List JobReport)
    (before after : String) :
    (finishedReport tree root options path reports before after).outcome ≠ .error := by
  rw [finishedReport]
  dsimp only
  split
  · exact Outcome.noConfusion
  · split <;> exact Outcome.noConfusion

/--
If the report on a file that can be read is no error, all its jobs succeeded, and the text that they
leave is read back if the run writes.
-/
theorem exists_final_of_processFile
    {report : FileReport}
    (isRead : tree.readText path = .ok text)
    (reported : (processFile config options tree path jobs).2 = .ok report)
    (finished : report.outcome ≠ .error) :
    ∃ final,
      (Job.runAll options.mode config.values text jobs).2 = .ok final ∧
        (options.apply = true →
          (processFile config options tree path jobs).1.readText path = .ok final) := by
  rw [processFile, isRead] at reported
  rw [processFile, isRead]
  dsimp only at reported ⊢
  cases ran : Job.runAll options.mode config.values text jobs with
  | mk reports outcome =>
      rw [ran] at reported
      cases outcome with
      | error error =>
          dsimp only at reported
          split at reported
          · cases reported
            exact (finished rfl).elim
          · cases reported
      | ok final =>
          refine ⟨final, rfl, fun writes => ?_⟩
          dsimp only at reported ⊢
          by_cases same : final = text
          · simpa [same] using isRead
          · simp only [writes, same, ne_eq, not_false_eq_true, decide_true, Bool.and_true,
              ↓reduceIte] at reported ⊢
            cases written : tree.writeText path final with
            | error error =>
                rw [written] at reported
                cases reported
                exact (finished rfl).elim
            | ok later =>
                exact FileNode.readText_of_writeText written

/-- If all jobs of a file succeed and it can be written, the report on it is no error. -/
theorem exists_report_of_runAll
    {final : String}
    {names : List String}
    (isRead : tree.readText path = .ok text)
    (ran : (Job.runAll options.mode config.values text jobs).2 = .ok final)
    (isOpen : tree.openPlace? path = some names) :
    ∃ report,
      (processFile config options tree path jobs).2 = .ok report ∧ report.outcome ≠ .error := by
  rw [processFile, isRead]
  dsimp only
  cases outcome : Job.runAll options.mode config.values text jobs with
  | mk reports left =>
      rw [outcome] at ran
      cases ran
      simp only [FileNode.writeText, FileNode.write_of_openPlace? isOpen]
      split <;> exact ⟨_, rfl, outcome_finishedReport _ _ _ _ _ _ _⟩

/-- The report on a file that is left alone by all jobs. -/
def FileReport.untouched (path : FilePath) (jobs : List Job) : FileReport :=
  ⟨path, .unchanged, jobs.map fun job => job.report .unchanged none, none, none⟩

/-- A file whose text is left alone by all jobs is left alone. -/
theorem processFile_of_unchanged
    (isRead : tree.readText path = .ok text)
    (unchanged :
      ∀ job ∈ jobs, job.run options.mode config.values text = .ok (.unchanged text)) :
    processFile config options tree path jobs = (tree, .ok (.untouched path jobs)) := by
  rw [processFile, isRead]
  simp [Job.runAll_of_unchanged unchanged, finishedReport, FileReport.untouched]

/-- A file in which nothing is left to do is left alone. -/
theorem processFile_of_settled
    (syncs : options.mode = .sync)
    (isRead : tree.readText path = .ok text)
    (settled : ∀ job ∈ jobs, job.Settled config.values (Text.lines text))
    (named : Job.AllNamed jobs) :
    processFile config options tree path jobs = (tree, .ok (.untouched path jobs)) := by
  apply processFile_of_unchanged isRead
  intro job isJob
  rw [syncs]
  exact (settled job isJob).run (named job isJob)

end File

/--
Jobs that do not get in each other's way are done after one run: every block that is wanted is
current and every other one is gone, and another run changes nothing.
-/
theorem processFile_converges
    (config : Config)
    (options : RunOptions)
    (tree : FileNode)
    (path : FilePath)
    (jobs : List Job)
    (text : String)
    (report : FileReport)
    (syncs : options.mode = .sync)
    (isRead : tree.readText path = .ok text)
    (separate : Job.Separate config.values text jobs)
    (reported : (processFile config options tree path jobs).2 = .ok report)
    (finished : report.outcome ≠ .error) :
    ∃ final,
      (Job.runAll .sync config.values text jobs).2 = .ok final ∧
        (options.apply = true →
          (processFile config options tree path jobs).1.readText path = .ok final) ∧
        (∀ job ∈ jobs, job.Settled config.values (Text.lines final)) ∧
        ∀ (again : RunOptions) (later : FileNode) (place : FilePath),
          again.mode = .sync →
            later.readText place = .ok final →
              processFile config again later place jobs = (later, .ok (.untouched place jobs)) := by
  obtain ⟨final, ran, written⟩ := exists_final_of_processFile isRead reported finished
  rw [syncs] at ran
  have settled := separate.settled ran
  exact
    ⟨final, ran, written, settled, fun _ _ _ againSyncs laterRead =>
      processFile_of_settled againSyncs laterRead settled (Job.allNamed_of_runAll_sync ran)⟩

/-- A job that takes its block out, since the value of its only placeholder is missing. -/
def droppedJob : Job :=
  ⟨⟨[], .registered "", []⟩,
    .ofTemplate "gone" (.literal "y" .after "") (.parse "$v") .default none [] "" ""⟩

/-- A job that writes a block behind the line with an `x`. -/
def writtenJob : Job :=
  ⟨⟨[], .registered "", []⟩,
    .ofTemplate "note" (.literal "x" .after "") (.ofText "p") .default none [] "" ""⟩

/-- A text with a block that is to be taken out. -/
def droppedText : String :=
  "x\n# @generated begin gone -\nold\n# @generated end gone"

/-- A tree with the text in a file. -/
def droppedTree : FileNode :=
  .directory [("a", .file (Text.encode droppedText))]

/-- A configuration without shared values. -/
def bareConfig : Config :=
  ⟨⟨"/", []⟩, [], [], [], []⟩

/-- The two jobs do not get in each other's way. -/
theorem separate_droppedJob_writtenJob :
    Job.Separate [] droppedText [droppedJob, writtenJob] := by
  have dropped : Block.named? droppedJob.tag (Text.lines droppedText) = some ⟨1, 3, none⟩ := by
    decide
  have fresh : Block.named? writtenJob.tag (Text.lines droppedText) = none := by
    decide
  have refused : droppedJob.payload [] = .error (.missingValues "gone" ["v"]) :=
    rfl
  have rendered : writtenJob.payload [] = .ok "p" :=
    rfl
  have droppedTraceable : droppedJob.Traceable [] := by
    refine
      ⟨⟨Marker.unmarked_of_notMem (by decide), CommentStyle.clean_default,
          fun payload isPayload => ?_⟩,
        Fingerprint.not_holdsToken_of_length_lt (by decide),
        Fingerprint.not_holdsToken_of_length_lt (by decide)⟩
    rw [refused] at isPayload
    cases isPayload
  have writtenTraceable : writtenJob.Traceable [] := by
    refine
      ⟨⟨Marker.unmarked_of_notMem (by decide), CommentStyle.clean_default,
          fun payload isPayload => ?_⟩,
        Fingerprint.not_holdsToken_of_length_lt (by decide),
        Fingerprint.not_holdsToken_of_length_lt (by decide)⟩
    rw [rendered] at isPayload
    cases isPayload
    exact Marker.unmarked_of_notMem (by decide)
  have cases_of_mem : ∀ job ∈ [droppedJob, writtenJob], job = droppedJob ∨ job = writtenJob :=
    fun job isJob => by simpa using isJob
  have unanchored :
      ∀ line ∈ Block.linesIn ⟨1, 3, none⟩ (Text.lines droppedText),
        writtenJob.fragment.anchor.matchesLine line = false := by
    decide
  constructor
  · decide
  · simpa using ⟨droppedTraceable, writtenTraceable⟩
  · intro job isJob other isOther different block found otherBlock otherFound
    rcases cases_of_mem job isJob with rfl | rfl
    · rcases cases_of_mem other isOther with rfl | rfl
      · exact (different rfl).elim
      · rw [fresh] at otherFound
        cases otherFound
    · rw [fresh] at found
      cases found
  · intro job isJob other isOther different block found
    rcases cases_of_mem job isJob with rfl | rfl
    · rcases cases_of_mem other isOther with rfl | rfl
      · exact (different rfl).elim
      · rw [dropped, Option.some.injEq] at found
        subst found
        exact unanchored
    · rw [fresh] at found
      cases found
  · intro job isJob incomplete tag sameName
    rcases cases_of_mem job isJob with rfl | rfl
    · obtain rfl : tag = ⟨"gone", by decide⟩ := Tag.eq_of_name_eq sameName
      decide
    · cases incomplete

/-- A run that takes one block out and writes another one. -/
theorem processFile_converges_dropped :
    ∃ final,
      (Job.runAll .sync [] droppedText [droppedJob, writtenJob]).2 = .ok final ∧
        (∀ job ∈ [droppedJob, writtenJob], job.Settled [] (Text.lines final)) ∧
        ∀ later : FileNode,
          later.readText ⟨"/", ["a"]⟩ = .ok final →
            processFile bareConfig ⟨.sync, true, true⟩ later ⟨"/", ["a"]⟩
                [droppedJob, writtenJob] =
              (later, .ok (.untouched ⟨"/", ["a"]⟩ [droppedJob, writtenJob])) := by
  have isRead : droppedTree.readText ⟨"/", ["a"]⟩ = .ok droppedText :=
    rfl
  have first : droppedJob.run .sync [] droppedText = .ok ⟨"x", false, true⟩ := by
    decide
  have second :
      Merge.Outcome "x" ⟨"note", by decide⟩ (.literal "x" .after "") "p" .default _ :=
    .fresh 1 (by decide) (by decide)
  have done : Job.Done [] writtenJob "x" _ :=
    .merged ⟨"note", by decide⟩ "p" _ rfl rfl rfl second
  have nothingLeft : ∀ text, (Job.runAll .sync [] text []).2 = .ok text :=
    fun _ => rfl
  have ran :=
    Job.runAll_cons_eq_ok_iff.mpr
      ⟨_, first, Job.runAll_cons_eq_ok_iff.mpr
        ⟨_, Job.run_sync_eq_ok_iff.mpr done, nothingLeft _⟩⟩
  have isOpen : droppedTree.openPlace? ⟨"/", ["a"]⟩ = some ["a"] :=
    rfl
  obtain ⟨report, reported, finished⟩ :
      ∃ report,
        (processFile bareConfig ⟨.sync, true, true⟩ droppedTree ⟨"/", ["a"]⟩
            [droppedJob, writtenJob]).2 = .ok report ∧
          report.outcome ≠ .error :=
    exists_report_of_runAll isRead ran isOpen
  obtain ⟨final, finalRan, _, settled, again⟩ :=
    processFile_converges bareConfig ⟨.sync, true, true⟩ droppedTree ⟨"/", ["a"]⟩
      [droppedJob, writtenJob] droppedText report rfl isRead separate_droppedJob_writtenJob
      reported finished
  exact ⟨final, finalRan, settled, fun later laterRead => again _ later _ rfl laterRead⟩

end BlockSync
