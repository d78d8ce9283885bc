import BlockSync.Proofs.Block.Pairs
import BlockSync.Proofs.Run.Convergence
import BlockSync.Proofs.Run.Preview
import BlockSync.Proofs.Run.Reversal

namespace BlockSync

/-!
# Removal for good

Taking a tag out of a text leaves one pair of its markers less, so its block is gone for good
exactly if there was at most one pair.  A run that takes blocks out makes no pair of any tag, so
where the tags of the jobs had at most one pair each, the next such run finds nothing to do.
-/

namespace Block

/-- The number of pairs of markers in a text. -/
def pairsIn (tag : Tag) (text : String) : Nat :=
  pairs tag 0 (Text.lines text)

/-- Lines that are put together to a text hold the same pairs. -/
theorem pairsIn_ofLines
    {lines : List Text.Line}
    (fedless : ∀ line ∈ lines, '\n' ∉ line)
    (tag : Tag) :
    pairsIn tag (Text.ofLines lines) = pairs tag 0 lines := by
  cases lines with
  | nil =>
      have foreign : ∀ line ∈ Text.lines (Text.ofLines []), Marker.Foreign tag line := by
        intro line member
        have unmarked : Marker.Unmarked ([] : Text.Line) :=
          Marker.unmarked_of_notMem (List.not_mem_nil)
        rw [show Text.lines (Text.ofLines []) = [[]] from rfl, List.mem_singleton] at member
        exact member ▸ Marker.foreign_of_unmarked unmarked tag
      rw [pairsIn, ← List.append_nil (Text.lines _), pairs_append_of_foreign foreign]
  | cons line rest =>
      rw [pairsIn, Text.lines_ofLines (List.cons_ne_nil line rest) fedless]

end Block

namespace Merge

/-- Taking a tag out does nothing exactly if there is no pair of its markers. -/
theorem removeTagged_eq_unchanged_iff
    {text : String}
    {tag : Tag} :
    removeTagged text tag = .unchanged text ↔ Block.pairsIn tag text = 0 := by
  rw [Block.pairsIn, ← Block.find?_eq_none_iff_pairs, removeTagged]
  cases Block.find? tag (Text.lines text) with
  | none =>
      simp
  | some block =>
      simp [MergeResult.unchanged]

/-- The pairs that are left are those of the lines around the block that is taken out. -/
theorem pairsIn_removeTagged_of_find?
    {text : String}
    {tag : Tag}
    {block : Block}
    (found : Block.find? tag (Text.lines text) = some block)
    (other : Tag) :
    Block.pairsIn other (removeTagged text tag).contents =
      Block.pairs other 0 (block.excise (Text.lines text)) := by
  have fedless : ∀ line ∈ block.excise (Text.lines text), '\n' ∉ line :=
    block.forall_mem_excise fun _ => Text.notMem_of_mem_lines
  rw [removeTagged_of_find? found]
  exact Block.pairsIn_ofLines fedless other

/-- Taking a tag out leaves one pair of its markers less, if there was one. -/
theorem pairsIn_removeTagged (text : String) (tag : Tag) :
    Block.pairsIn tag (removeTagged text tag).contents = Block.pairsIn tag text - 1 := by
  cases found : Block.find? tag (Text.lines text) with
  | none =>
      have none : Block.pairsIn tag text = 0 :=
        Block.find?_eq_none_iff_pairs.mp found
      rw [removeTagged_eq_unchanged_iff.mpr none, none]
      exact none
  | some block =>
      rw [pairsIn_removeTagged_of_find? found, Block.pairsIn, Block.pairs_excise found,
        Nat.add_sub_cancel]

/-- Taking a tag out makes no pair of any tag. -/
theorem pairsIn_removeTagged_le
    (text : String)
    (tag other : Tag) :
    Block.pairsIn other (removeTagged text tag).contents ≤ Block.pairsIn other text := by
  cases found : Block.find? tag (Text.lines text) with
  | none =>
      rw [removeTagged_eq_unchanged_iff.mpr (Block.find?_eq_none_iff_pairs.mp found)]
      exact Nat.le_refl _
  | some block =>
      rw [pairsIn_removeTagged_of_find? found]
      exact
        Block.pairs_sublist
          (Block.excise_sublist (Nat.le_of_lt (Block.bounds_of_find? found).1) _) 0

/--
Taking a tag out leaves one pair of its markers less.  No block of it is left, and taking it out
once more does nothing, exactly if there was at most one pair.
-/
theorem remove_once (text : String) (tag : Tag) :
    ∃ result,
      remove text tag.name = .ok result ∧
        Block.pairsIn tag result.contents = Block.pairsIn tag text - 1 ∧
        (Block.find? tag (Text.lines result.contents) = none ↔ Block.pairsIn tag text ≤ 1) ∧
        (remove result.contents tag.name = .ok (.unchanged result.contents) ↔
          Block.pairsIn tag text ≤ 1) := by
  have left := pairsIn_removeTagged text tag
  have gone :
      Block.pairsIn tag (removeTagged text tag).contents = 0 ↔ Block.pairsIn tag text ≤ 1 := by
    rw [left, Nat.sub_eq_zero_iff_le]
  refine ⟨removeTagged text tag, remove_name_eq text tag, left, ?_, ?_⟩
  · rw [Block.find?_eq_none_iff_pairs]
    exact gone
  · rw [remove_name_eq, Except.ok.injEq, removeTagged_eq_unchanged_iff]
    exact gone

end Merge

namespace Job

variable {shared : Table} {text final : String} {jobs : List Job}

/-- Whether the tag of every job has at most one pair of markers in a text. -/
def Single (text : String) (jobs : List Job) : Prop :=
  ∀ job ∈ jobs, ∀ tag : Tag, tag.name = job.tag → Block.pairsIn tag text ≤ 1

/-- Whether every job has a valid tag without a pair of markers in a text. -/
def Stripped (text : String) (jobs : List Job) : Prop :=
  ∀ job ∈ jobs, ∃ tag : Tag, tag.name = job.tag ∧ Block.pairsIn tag text = 0

/-- Jobs that take their blocks out make no pair of any tag. -/
theorem pairsIn_runAll_strip
    (ran : (runAll .strip shared text jobs).2 = .ok final)
    (tag : Tag) :
    Block.pairsIn tag final ≤ Block.pairsIn tag text := by
  induction jobs generalizing text with
  | nil =>
      injection ran with same
      rw [same]
  | cons job others inductionHypothesis =>
      obtain ⟨result, ranFirst, ranOthers⟩ := runAll_cons_eq_ok_iff.mp ran
      obtain ⟨own, _, rfl⟩ := run_strip_eq_ok_iff.mp ranFirst
      exact Nat.le_trans (inductionHypothesis ranOthers)
        (Merge.pairsIn_removeTagged_le text own tag)

/-- Some of the pairs of a text are at most one of each tag if all of them are. -/
theorem Single.of_le
    {later : String}
    (single : Single text jobs)
    (fewer : ∀ tag, Block.pairsIn tag later ≤ Block.pairsIn tag text) :
    Single later jobs :=
  fun job member tag sameName => Nat.le_trans (fewer tag) (single job member tag sameName)

/-- Tags without a pair of markers have none among fewer pairs. -/
theorem Stripped.of_le
    {later : String}
    (stripped : Stripped text jobs)
    (fewer : ∀ tag, Block.pairsIn tag later ≤ Block.pairsIn tag text) :
    Stripped later jobs := by
  intro job member
  obtain ⟨tag, sameName, none⟩ := stripped job member
  exact ⟨tag, sameName, Nat.eq_zero_of_le_zero (none ▸ fewer tag)⟩

/-- Jobs that all take their only blocks out leave no pair of their tags. -/
theorem stripped_of_runAll
    (ran : (runAll .strip shared text jobs).2 = .ok final)
    (single : Single text jobs) :
    Stripped final jobs := by
  induction jobs generalizing text with
  | nil =>
      simp [Stripped]
  | cons job others inductionHypothesis =>
      obtain ⟨result, ranFirst, ranOthers⟩ := runAll_cons_eq_ok_iff.mp ran
      obtain ⟨tag, sameName, rfl⟩ := run_strip_eq_ok_iff.mp ranFirst
      rw [Single, List.forall_mem_cons] at single
      have onlyPair := single.1 tag sameName
      have gone : Block.pairsIn tag (Merge.removeTagged text tag).contents = 0 := by
        rw [Merge.pairsIn_removeTagged]
        omega
      have othersSingle : Single (Merge.removeTagged text tag).contents others :=
        Single.of_le single.2 (Merge.pairsIn_removeTagged_le text tag)
      refine List.forall_mem_cons.mpr ⟨⟨tag, sameName, ?_⟩, ?_⟩
      · exact Nat.eq_zero_of_le_zero (gone ▸ pairsIn_runAll_strip ranOthers tag)
      · exact inductionHypothesis ranOthers othersSingle

/-- A job whose tag has no pair of markers finds nothing to take out. -/
theorem Stripped.run_strip
    {job : Job}
    (stripped : Stripped text jobs)
    (isJob : job ∈ jobs)
    (shared : Table) :
    job.run .strip shared text = .ok (.unchanged text) := by
  obtain ⟨tag, sameName, none⟩ := stripped job isJob
  exact
    run_strip_eq_ok_iff.mpr
      ⟨tag, sameName, (Merge.removeTagged_eq_unchanged_iff.mpr none).symm⟩

end Job

/-- Whether every path is read as before, or as a text with no more pairs of any tag. -/
def FileNode.Thinned (tree later : FileNode) : Prop :=
  ∀ path,
    later.readText path = tree.readText path ∨
      ∃ text rest,
        tree.readText path = .ok text ∧
          later.readText path = .ok rest ∧
          ∀ tag, Block.pairsIn tag rest ≤ Block.pairsIn tag text

namespace FileNode

variable {tree next later : FileNode} {path : FilePath} {text : String}

/-- A tree that is thinned twice is thinned. -/
theorem Thinned.trans
    (first : Thinned tree next)
    (second : Thinned next later) :
    Thinned tree later := by
  intro path
  rcases second path with same | ⟨text, rest, isRead, laterRead, fewer⟩
  · rw [same]
    exact first path
  · rcases first path with same | ⟨whole, part, wasRead, nextRead, fewerFirst⟩
    · rw [same] at isRead
      exact .inr ⟨text, rest, isRead, laterRead, fewer⟩
    · rw [nextRead, Except.ok.injEq] at isRead
      subst isRead
      exact
        .inr ⟨whole, rest, wasRead, laterRead, fun tag =>
          Nat.le_trans (fewer tag) (fewerFirst tag)⟩

/-- A text is read with no more pairs from a thinned tree. -/
theorem Thinned.exists_rest
    (thinned : Thinned tree later)
    (isRead : tree.readText path = .ok text) :
    ∃ rest,
      later.readText path = .ok rest ∧
        ∀ tag, Block.pairsIn tag rest ≤ Block.pairsIn tag text := by
  rcases thinned path with same | ⟨whole, rest, wasRead, laterRead, fewer⟩
  · exact ⟨text, same.trans isRead, fun _ => Nat.le_refl _⟩
  · rw [isRead, Except.ok.injEq] at wasRead
    subst wasRead
    exact ⟨rest, laterRead, fewer⟩

/-- What is read from a thinned tree was read with no fewer pairs before. -/
theorem Thinned.exists_whole
    (thinned : Thinned tree later)
    (laterRead : later.readText path = .ok text) :
    ∃ whole,
      tree.readText path = .ok whole ∧
        ∀ tag, Block.pairsIn tag text ≤ Block.pairsIn tag whole := by
  rcases thinned path with same | ⟨whole, rest, wasRead, isRead, fewer⟩
  · exact ⟨text, same.symm.trans laterRead, fun _ => Nat.le_refl _⟩
  · rw [laterRead, Except.ok.injEq] at isRead
    subst isRead
    exact ⟨whole, wasRead, fewer⟩

/-- Paths that do not lead apart read the same text. -/
theorem readText_eq_of_not_leadsApart
    {other : FilePath}
    (together : ¬ tree.LeadsApart path other) :
    tree.readText other = tree.readText path := by
  rw [LeadsApart] at together
  push Not at together
  obtain ⟨names, isPlace, samePlace⟩ := together
  obtain ⟨content, _, present, _⟩ := exists_fileAt isPlace
  rw [readText_of_place? isPlace present, readText_of_place? samePlace present]

end FileNode

section Run

variable {config : Config} {options : RunOptions} {tree : FileNode}

/-- Taking out the blocks of a file thins the tree. -/
theorem thinned_processFile
    (strips : options.mode = .strip)
    {path : FilePath}
    {jobs : List Job}
    {text final : String}
    (isRead : tree.readText path = .ok text)
    (ran : (Job.runAll options.mode config.values text jobs).2 = .ok final)
    (finalRead : (processFile config options tree path jobs).1.readText path = .ok final) :
    tree.Thinned (processFile config options tree path jobs).1 := by
  intro other
  by_cases apart : tree.LeadsApart path other
  · exact .inl (readText_processFile_of_apart apart)
  · have together :
        ¬ (processFile config options tree path jobs).1.LeadsApart path other := fun laterApart =>
      apart (FileNode.leadsApart_congr (outline_processFile config options tree path jobs).symm
        laterApart)
    have laterRead := (FileNode.readText_eq_of_not_leadsApart together).trans finalRead
    rw [strips] at ran
    exact
      .inr ⟨text, final, (FileNode.readText_eq_of_not_leadsApart apart).trans isRead, laterRead,
        Job.pairsIn_runAll_strip ran⟩

/-- Whether no tag of a job has two pairs of markers in the file of the job. -/
def Plan.Single (plan : Plan) (tree : FileNode) : Prop :=
  ∀ item ∈ plan, ∀ text, tree.readText item.1 = .ok text → Job.Single text item.2

/-- Whether the planned files can be read, without a pair of markers of any of their jobs. -/
def Plan.Stripped (plan : Plan) (tree : FileNode) : Prop :=
  ∀ item ∈ plan, ∃ text, tree.readText item.1 = .ok text ∧ Job.Stripped text item.2

/-- Taking out the only blocks of a plan without an error leaves none of them. -/
theorem stripped_processFiles
    {plan : Plan}
    {reports : List FileReport}
    (strips : options.mode = .strip)
    (writes : options.apply = true)
    (single : plan.Single tree)
    (reported : (processFiles config options tree plan).2 = .ok reports)
    (clean : ∀ report ∈ reports, report.outcome ≠ .error) :
    tree.Thinned (processFiles config options tree plan).1 ∧
      plan.Stripped (processFiles config options tree plan).1 := by
  induction plan generalizing tree reports with
  | nil =>
      exact ⟨fun path => .inl rfl, by simp [Plan.Stripped]⟩
  | cons item others inductionHypothesis =>
      obtain ⟨path, jobs⟩ := item
      have contained : config.escape? options.mode tree (path, jobs) = none := by
        rw [strips, config.escape?_strip]
      obtain ⟨report, reportedFirst⟩ := exists_report_iff.mpr contained
      rw [processFiles_cons_of_report reportedFirst] at reported ⊢
      obtain ⟨rest, reportedOthers, rfl⟩ := Except.map_eq_ok_iff.mp reported
      rw [List.forall_mem_cons] at clean
      rw [Plan.Single, List.forall_mem_cons] at single
      cases isRead : tree.readText path with
      | error error =>
          rw [processFile, isRead] at reportedFirst
          cases reportedFirst
          exact (clean.1 rfl).elim
      | ok text =>
          obtain ⟨final, ran, written⟩ :=
            exists_final_of_processFile isRead reportedFirst clean.1
          have finalRead := written writes
          have thinned := thinned_processFile strips isRead ran finalRead
          -- Other paths may lead to the same file, which then has fewer pairs than at first.
          have othersSingle :
              Plan.Single others (processFile config options tree path jobs).1 := by
            intro item isItem later laterRead
            obtain ⟨whole, wasRead, fewer⟩ := thinned.exists_whole laterRead
            exact (single.2 item isItem whole wasRead).of_le fewer
          obtain ⟨othersThinned, othersStripped⟩ :=
            inductionHypothesis othersSingle reportedOthers clean.2
          rw [strips] at ran
          obtain ⟨rest, restRead, fewer⟩ := othersThinned.exists_rest finalRead
          have stripped := Job.stripped_of_runAll ran (single.1 text isRead)
          exact
            ⟨thinned.trans othersThinned,
              List.forall_mem_cons.mpr ⟨⟨rest, restRead, stripped.of_le fewer⟩, othersStripped⟩⟩

/-- Where no block of a plan is left, taking them out again changes nothing. -/
theorem processFiles_of_stripped
    {plan : Plan}
    (strips : options.mode = .strip)
    (stripped : plan.Stripped tree) :
    ∃ reports,
      processFiles config options tree plan = (tree, .ok reports) ∧
        ∀ report ∈ reports, report.outcome = .unchanged := by
  induction plan with
  | nil =>
      exact ⟨[], rfl, by simp⟩
  | cons item others inductionHypothesis =>
      obtain ⟨path, jobs⟩ := item
      rw [Plan.Stripped, List.forall_mem_cons] at stripped
      obtain ⟨⟨text, isRead, jobsStripped⟩, othersStripped⟩ := stripped
      have untouched :
          ∀ job ∈ jobs, job.run options.mode config.values text = .ok (.unchanged text) := by
        rw [strips]
        exact fun job isJob => jobsStripped.run_strip isJob config.values
      obtain ⟨reports, processed, unchanged⟩ := inductionHypothesis othersStripped
      rw [processFiles, processFile_of_unchanged isRead untouched]
      dsimp only
      rw [processed]
      exact ⟨_, rfl, List.forall_mem_cons.mpr ⟨rfl, unchanged⟩⟩

/--
A run that takes blocks out and ends without errors is final: where no tag of a job had two pairs
of markers, such a run leaves every file alone from then on.
-/
theorem Config.run_strip_again
    {only : List String}
    {planning : Planning}
    {diff : Bool}
    {stripped : FileNode}
    {report : RunReport}
    (planned : config.plan tree only = .ok planning)
    (single : planning.plan.Single tree)
    (ran : config.run ⟨.strip, true, diff⟩ only tree = ⟨stripped, .ok report⟩)
    (clean : report.hadErrors = false)
    (strips : options.mode = .strip) :
    ∃ laterReport,
      config.run options only stripped = ⟨stripped, .ok laterReport⟩ ∧
        ∀ file ∈ laterReport.files, file.outcome = .unchanged := by
  rw [config.run_eq_of_plan planned, Run.mk.injEq, Except.mapError_eq_ok_iff,
    Except.map_eq_ok_iff] at ran
  obtain ⟨rfl, files, reported, rfl⟩ := ran
  have writes : RunOptions.apply ⟨.strip, true, diff⟩ = true :=
    rfl
  have noErrors : ∀ file ∈ files, file.outcome ≠ .error := by
    simpa [RunReport.hadErrors] using clean
  obtain ⟨sameOutline, _⟩ := files_processFiles config writes tree planning.plan
  obtain ⟨_, isStripped⟩ := stripped_processFiles rfl writes single reported noErrors
  generalize (processFiles config ⟨.strip, true, diff⟩ tree planning.plan).1 = stripped
    at sameOutline isStripped
  have plannedAgain : config.plan stripped only = .ok planning := by
    rw [config.plan_congr sameOutline, planned]
  obtain ⟨later, processed, unchanged⟩ :
      ∃ later, processFiles config options stripped planning.plan = (stripped, .ok later) ∧ _ :=
    processFiles_of_stripped strips isStripped
  have ranAgain := config.run_eq_of_plan plannedAgain options
  rw [processed] at ranAgain
  exact ⟨_, ranAgain, unchanged⟩

end Run

/--
Taking a tag out leaves no block of it, and nothing to do for taking it out again, exactly if the
text has at most one pair of its markers.  A run that takes blocks out and ends without errors
leaves nothing to do for the next such run if that is so for all its jobs.
-/
theorem removed_for_good :
    (∀ (text : String) (tag : Tag), ∃ result,
      Merge.remove text tag.name = .ok result ∧
        Block.pairsIn tag result.contents = Block.pairsIn tag text - 1 ∧
        (Block.find? tag (Text.lines result.contents) = none ↔ Block.pairsIn tag text ≤ 1) ∧
        (Merge.remove result.contents tag.name = .ok (.unchanged result.contents) ↔
          Block.pairsIn tag text ≤ 1)) ∧
      ∀ (config : Config) (only : List String) (tree : FileNode) (planning : Planning)
        (diff : Bool) (stripped : FileNode) (report : RunReport) (again : RunOptions),
        config.plan tree only = .ok planning →
          planning.plan.Single tree →
          config.run ⟨.strip, true, diff⟩ only tree = ⟨stripped, .ok report⟩ →
          report.hadErrors = false →
          again.mode = .strip →
            ∃ laterReport,
              config.run again only stripped = ⟨stripped, .ok laterReport⟩ ∧
                ∀ file ∈ laterReport.files, file.outcome = .unchanged :=
  ⟨Merge.remove_once, fun _ _ _ _ _ _ _ _ planned single ran clean strips =>
    Config.run_strip_again planned single ran clean strips⟩

/-- A tree with a file that holds a note and an end marker to spare. -/
def leftoverTree : FileNode :=
  .directory
    [("a", .file (Text.encode
      "x\n# @generated begin note -\np\n# @generated end note\n# @generated end note"))]

/-- The end marker to spare is no pair, so the note is gone for good. -/
theorem removed_for_good_leftover :
    ∃ stripped report laterReport,
      noteConfig.run ⟨.strip, true, false⟩ [] leftoverTree = ⟨stripped, .ok report⟩ ∧
        report.hadErrors = false ∧
        noteConfig.run ⟨.strip, true, false⟩ [] stripped = ⟨stripped, .ok laterReport⟩ ∧
        ∀ file ∈ laterReport.files, file.outcome = .unchanged := by
  have planned : noteConfig.plan leftoverTree [] = .ok ⟨[(⟨"/", ["a"]⟩, [noteJob])], []⟩ := by
    rw [noteConfig.plan_congr (show leftoverTree.outline = noteTree.outline from rfl)]
    exact plan_noteConfig
  have isRead :
      leftoverTree.readText ⟨"/", ["a"]⟩ =
        .ok "x\n# @generated begin note -\np\n# @generated end note\n# @generated end note" :=
    rfl
  have single : Plan.Single [(⟨"/", ["a"]⟩, [noteJob])] leftoverTree := by
    intro item isItem text itemRead job isJob tag sameName
    obtain rfl : item = (⟨"/", ["a"]⟩, [noteJob]) := by simpa using isItem
    rw [isRead] at itemRead
    cases itemRead
    obtain rfl : job = noteJob := by simpa using isJob
    obtain rfl : tag = ⟨"note", by decide⟩ := Tag.eq_of_name_eq sameName
    decide
  have named : Job.AllNamed [noteJob] := by
    rw [Job.AllNamed, List.forall_mem_singleton]
    decide
  obtain ⟨final, ranJobs⟩ :=
    (Job.runAll_strip_ok_iff noteConfig.values
      "x\n# @generated begin note -\np\n# @generated end note\n# @generated end note").mpr named
  have isOpen : leftoverTree.openPlace? ⟨"/", ["a"]⟩ = some ["a"] :=
    rfl
  obtain ⟨fileReport, reported, finished⟩ :
      ∃ fileReport,
        (processFile noteConfig ⟨.strip, true, false⟩ leftoverTree ⟨"/", ["a"]⟩ [noteJob]).2 =
            .ok fileReport ∧
          fileReport.outcome ≠ .error :=
    exists_report_of_runAll isRead ranJobs isOpen
  have ran := noteConfig.run_eq_of_plan planned ⟨.strip, true, false⟩
  rw [processFiles_cons_of_report reported] at ran
  have clean : RunReport.hadErrors ⟨[fileReport], []⟩ = false := by
    simpa [RunReport.hadErrors] using finished
  obtain ⟨laterReport, again, unchanged⟩ :=
    removed_for_good.2 noteConfig [] leftoverTree _ false _ _ ⟨.strip, true, false⟩ planned single
      ran clean rfl
  exact ⟨_, _, laterReport, ran, clean, again, unchanged⟩

/-- Markers of one tag around a block of the same tag become a block when that one is taken out. -/
theorem removed_not_for_good :
    Merge.remove
        "# @generated begin a -\n# @generated begin a -\n# @generated end a\nx\n# @generated end a"
        "a" =
      .ok ⟨"# @generated begin a -\nx\n# @generated end a", false, true⟩ ∧
      Block.find? ⟨"a", by decide⟩
          (Text.lines "# @generated begin a -\nx\n# @generated end a") =
        some ⟨0, 2, none⟩ ∧
      Merge.remove "# @generated begin a -\nx\n# @generated end a" "a" = .ok ⟨"", false, true⟩ := by
  decide

end BlockSync
