import BlockSync.Proofs.Merge.Layered
import BlockSync.Proofs.Run.Job
import BlockSync.Proofs.Run.Plan
import BlockSync.Proofs.Run.Process

namespace BlockSync

/-!
# Reversal of a run

A run that brings blocks up to date only puts blocks into the texts of files, so a run of the same
plan that takes blocks out gives every file its bytes back.  A file on which a job failed was not
touched by the first run, nor was one behind a failure that escaped, and nothing is found in it by
the second one.
-/

namespace Job

/-- A job whose block is not in a text. -/
def IsAbsent (host : String) (job : Job) : Prop :=
  ∀ tag : Tag, tag.name = job.tag → Block.find? tag (Text.lines host) = none

/-- Tame jobs whose blocks are not in a text. -/
structure Suit (shared : Table) (host : String) (jobs : List Job) : Prop where
  tame :
    ∀ job ∈ jobs, job.Tame shared
  absent :
    ∀ job ∈ jobs, job.IsAbsent host

variable {shared : Table} {host text final : String} {live : List Tag}

/-- The jobs behind the first one suit a text that all of them suit. -/
theorem Suit.tail
    {job : Job}
    {others : List Job}
    (suit : Suit shared host (job :: others)) :
    Suit shared host others where
  tame other member :=
    suit.tame other (List.mem_cons_of_mem job member)
  absent other member :=
    suit.absent other (List.mem_cons_of_mem job member)

/-- A job leaves the host text with blocks in it, none of them of a new tag but its own. -/
theorem Done.layered
    {job : Job}
    {result : MergeResult}
    (done : Done shared job text result)
    (layered : Merge.Layered (Text.lines host) live (Text.lines text))
    (tame : job.Tame shared)
    (absent : job.IsAbsent host) :
    ∃ tag later,
      tag.name = job.tag ∧
        Merge.Layered (Text.lines host) later (Text.lines result.contents) ∧
        later ⊆ tag :: live := by
  cases done with
  | merged tag payload _ sameName _ rendered outcome =>
      obtain ⟨later, laterLayered, onlyNew⟩ :=
        outcome.layered layered (Block.find?_eq_none_iff.mp (absent tag sameName))
          tame.clean (tame.unmarked sameName) (tame.payloadUnmarked payload rendered)
      exact ⟨tag, later, sameName, laterLayered, onlyNew⟩
  | removed tag sameName _ =>
      obtain ⟨rest, restLayered, _, restLive⟩ :=
        layered.removeTagged (Block.find?_eq_none_iff.mp (absent tag sameName))
      exact
        ⟨tag, rest, sameName, restLayered, List.subset_cons_of_subset tag restLive⟩

/-- Jobs that all succeed leave the host text with blocks in it, all new ones of their tags. -/
theorem layered_of_runAll_sync
    {jobs : List Job}
    (ran : (runAll .sync shared text jobs).2 = .ok final)
    (layered : Merge.Layered (Text.lines host) live (Text.lines text))
    (suit : Suit shared host jobs) :
    ∃ later,
      Merge.Layered (Text.lines host) later (Text.lines final) ∧
        ∀ tag ∈ later, tag ∈ live ∨ ∃ job ∈ jobs, job.tag = tag.name := by
  induction jobs generalizing text live with
  | nil =>
      injection ran with same
      subst final
      exact ⟨live, layered, fun tag member => Or.inl member⟩
  | cons job others inductionHypothesis =>
      obtain ⟨result, ranFirst, ranOthers⟩ := runAll_cons_eq_ok_iff.mp ran
      obtain ⟨tag, next, sameName, nextLayered, onlyNew⟩ :=
        (run_sync_eq_ok_iff.mp ranFirst).layered layered (suit.tame job (by simp))
          (suit.absent job (by simp))
      obtain ⟨later, laterLayered, origin⟩ :=
        inductionHypothesis ranOthers nextLayered suit.tail
      refine ⟨later, laterLayered, ?_⟩
      intro other member
      rcases origin other member with inNext | ⟨laterJob, isLater, laterName⟩
      · rcases List.mem_cons.mp (onlyNew inNext) with rfl | wasLive
        · exact Or.inr ⟨job, by simp, sameName.symm⟩
        · exact Or.inl wasLive
      · exact Or.inr ⟨laterJob, List.mem_cons_of_mem job isLater, laterName⟩

/-- Taking out the blocks of jobs succeeds exactly if all their tags are valid. -/
theorem runAll_strip_ok_iff
    (shared : Table)
    (text : String)
    {jobs : List Job} :
    (∃ final, (runAll .strip shared text jobs).2 = .ok final) ↔ AllNamed jobs := by
  induction jobs generalizing text with
  | nil =>
      simp [runAll, AllNamed]
  | cons job others inductionHypothesis =>
      rw [AllNamed, List.forall_mem_cons]
      constructor
      · rintro ⟨final, ran⟩
        obtain ⟨result, ranFirst, ranOthers⟩ := runAll_cons_eq_ok_iff.mp ran
        obtain ⟨tag, sameName, _⟩ := run_strip_eq_ok_iff.mp ranFirst
        refine ⟨?_, (inductionHypothesis _).mp ⟨final, ranOthers⟩⟩
        rw [← sameName]
        exact tag.isTagName
      · rintro ⟨named, othersNamed⟩
        obtain ⟨final, ranOthers⟩ :=
          (inductionHypothesis (Merge.removeTagged text ⟨job.tag, named⟩).contents).mpr
            othersNamed
        exact
          ⟨final, runAll_cons_eq_ok_iff.mpr
            ⟨_, run_strip_eq_ok_iff.mpr ⟨⟨job.tag, named⟩, rfl, rfl⟩, ranOthers⟩⟩

/-- Taking out the blocks of jobs leaves the host text with blocks of other tags in it. -/
theorem layered_of_runAll_strip
    {jobs : List Job}
    (ran : (runAll .strip shared text jobs).2 = .ok final)
    (layered : Merge.Layered (Text.lines host) live (Text.lines text))
    (absent : ∀ job ∈ jobs, job.IsAbsent host) :
    ∃ rest,
      Merge.Layered (Text.lines host) rest (Text.lines final) ∧
        rest ⊆ live ∧
        ∀ job ∈ jobs, ∀ tag ∈ rest, job.tag ≠ tag.name := by
  induction jobs generalizing text live with
  | nil =>
      injection ran with same
      subst final
      exact ⟨live, layered, List.Subset.refl live, by simp⟩
  | cons job others inductionHypothesis =>
      obtain ⟨result, ranFirst, ranOthers⟩ := runAll_cons_eq_ok_iff.mp ran
      obtain ⟨tag, sameName, rfl⟩ := run_strip_eq_ok_iff.mp ranFirst
      obtain ⟨next, nextLayered, notInNext, nextLive⟩ :=
        layered.removeTagged
          (Block.find?_eq_none_iff.mp (absent job (by simp) tag sameName))
      obtain ⟨rest, restLayered, restNext, othersGone⟩ :=
        inductionHypothesis ranOthers nextLayered
          fun other member => absent other (List.mem_cons_of_mem job member)
      refine ⟨rest, restLayered, List.Subset.trans restNext nextLive, ?_⟩
      intro other member
      rcases List.mem_cons.mp member with rfl | isLater
      · intro present inRest same
        apply notInNext
        rw [Tag.eq_of_name_eq (sameName.trans same)]
        exact restNext inRest
      · exact othersGone other isLater

end Job

/-- Bytes of a host text with generated blocks in it. -/
def HoldsLayers (host : String) (live : List Tag) (content : ByteArray) : Prop :=
  ∃ text,
    Text.decode content = .ok text ∧
      Merge.Layered (Text.lines host) live (Text.lines text)

section Bytes

variable {config : Config} {host : String} {live : List Tag} {content : ByteArray}

/-- Bytes that are no text are never rewritten. -/
theorem foldl_rewritten_of_error
    {error : Text.DecodeError}
    (undecodable : Text.decode content = .error error)
    (mode : RunMode)
    (visits : List (List Job)) :
    visits.foldl (fun content jobs => rewritten config mode jobs content) content =
      content := by
  induction visits with
  | nil =>
      rfl
  | cons jobs others inductionHypothesis =>
      rw [List.foldl_cons, rewritten_of_error undecodable, inductionHypothesis]

/-- Bringing blocks up to date puts blocks into a host text, all new ones of valid jobs. -/
theorem HoldsLayers.foldl_sync
    {visits : List (List Job)}
    (holds : HoldsLayers host live content)
    (suit : ∀ jobs ∈ visits, Job.Suit config.values host jobs) :
    ∃ later,
      HoldsLayers host later
          (visits.foldl (fun content jobs => rewritten config .sync jobs content) content) ∧
        ∀ tag ∈ later,
          tag ∈ live ∨
            ∃ jobs ∈ visits, Job.AllNamed jobs ∧ ∃ job ∈ jobs, job.tag = tag.name := by
  induction visits generalizing content live with
  | nil =>
      exact ⟨live, holds, fun tag member => Or.inl member⟩
  | cons jobs others inductionHypothesis =>
      obtain ⟨text, decoded, layered⟩ := holds
      have othersSuit : ∀ jobs ∈ others, Job.Suit config.values host jobs :=
        fun jobs member => suit jobs (List.mem_cons_of_mem _ member)
      cases ran : (Job.runAll .sync config.values text jobs).2 with
      | error error =>
          have same := rewritten_of_failed decoded ran
          obtain ⟨later, laterHolds, origin⟩ :=
            inductionHypothesis ⟨text, decoded, layered⟩ othersSuit
          refine ⟨later, by rwa [List.foldl_cons, same], fun tag member => ?_⟩
          rcases origin tag member with wasLive | ⟨visit, isOther, named⟩
          · exact Or.inl wasLive
          · exact Or.inr ⟨visit, List.mem_cons_of_mem jobs isOther, named⟩
      | ok final =>
          have same := rewritten_of_done decoded ran
          have named := Job.allNamed_of_runAll_sync ran
          obtain ⟨next, nextLayered, nextOrigin⟩ :=
            Job.layered_of_runAll_sync ran layered (suit jobs (by simp))
          obtain ⟨later, laterHolds, origin⟩ :=
            inductionHypothesis ⟨final, Text.decode_encode final, nextLayered⟩ othersSuit
          refine ⟨later, by rwa [List.foldl_cons, same], fun tag member => ?_⟩
          rcases origin tag member with inNext | ⟨visit, isOther, visitNamed⟩
          · rcases nextOrigin tag inNext with wasLive | ⟨job, isJob, sameName⟩
            · exact Or.inl wasLive
            · exact Or.inr ⟨jobs, by simp, named, job, isJob, sameName⟩
          · exact Or.inr ⟨visit, List.mem_cons_of_mem jobs isOther, visitNamed⟩

/-- Taking out blocks leaves a host text without blocks of the valid jobs. -/
theorem HoldsLayers.foldl_strip
    {visits : List (List Job)}
    (holds : HoldsLayers host live content)
    (absent : ∀ jobs ∈ visits, ∀ job ∈ jobs, job.IsAbsent host) :
    ∃ rest,
      HoldsLayers host rest
          (visits.foldl (fun content jobs => rewritten config .strip jobs content) content) ∧
        rest ⊆ live ∧
        ∀ jobs ∈ visits, Job.AllNamed jobs →
          ∀ job ∈ jobs, ∀ tag ∈ rest, job.tag ≠ tag.name := by
  induction visits generalizing content live with
  | nil =>
      exact ⟨live, holds, List.Subset.refl live, by simp⟩
  | cons jobs others inductionHypothesis =>
      obtain ⟨text, decoded, layered⟩ := holds
      have othersAbsent : ∀ jobs ∈ others, ∀ job ∈ jobs, job.IsAbsent host :=
        fun jobs member => absent jobs (List.mem_cons_of_mem _ member)
      cases ran : (Job.runAll .strip config.values text jobs).2 with
      | error error =>
          have same := rewritten_of_failed decoded ran
          obtain ⟨rest, restHolds, restLive, gone⟩ :=
            inductionHypothesis ⟨text, decoded, layered⟩ othersAbsent
          refine ⟨rest, by rwa [List.foldl_cons, same], restLive, ?_⟩
          intro visit member named
          rcases List.mem_cons.mp member with rfl | isOther
          · obtain ⟨final, succeeded⟩ :=
              (Job.runAll_strip_ok_iff config.values text).mpr named
            rw [ran] at succeeded
            cases succeeded
          · exact gone visit isOther named
      | ok final =>
          have same := rewritten_of_done decoded ran
          obtain ⟨next, nextLayered, nextLive, nextGone⟩ :=
            Job.layered_of_runAll_strip ran layered (absent jobs (by simp))
          obtain ⟨rest, restHolds, restNext, gone⟩ :=
            inductionHypothesis ⟨final, Text.decode_encode final, nextLayered⟩ othersAbsent
          refine ⟨rest, by rwa [List.foldl_cons, same], List.Subset.trans restNext nextLive, ?_⟩
          intro visit member named
          rcases List.mem_cons.mp member with rfl | isOther
          · exact fun job isJob tag inRest => nextGone job isJob tag (restNext inRest)
          · exact gone visit isOther named

/--
Bringing some of the blocks up to date and taking all of them out gives the bytes of a host text
back.
-/
theorem foldl_strip_foldl_sync
    {done visits : List (List Job)}
    (isPart : done ⊆ visits)
    (suit : ∀ host, Text.decode content = .ok host →
      ∀ jobs ∈ visits, Job.Suit config.values host jobs) :
    visits.foldl (fun content jobs => rewritten config .strip jobs content)
        (done.foldl (fun content jobs => rewritten config .sync jobs content) content) =
      content := by
  cases decoded : Text.decode content with
  | error error =>
      rw [foldl_rewritten_of_error decoded, foldl_rewritten_of_error decoded]
  | ok host =>
      have suitsHost := suit host decoded
      have start : HoldsLayers host [] content := ⟨host, decoded, .host⟩
      obtain ⟨live, synced, origin⟩ :=
        start.foldl_sync fun jobs isDone => suitsHost jobs (isPart isDone)
      obtain ⟨rest, ⟨text, finalDecoded, finalLayered⟩, restLive, gone⟩ :=
        synced.foldl_strip fun jobs member => (suitsHost jobs member).absent
      obtain rfl : rest = [] := by
        rw [List.eq_nil_iff_forall_not_mem]
        intro tag inRest
        rcases origin tag (restLive inRest) with
            inNothing | ⟨jobs, isDone, named, job, isJob, sameName⟩
        · cases inNothing
        · exact gone jobs (isPart isDone) named job isJob tag inRest sameName
      rw [finalLayered.eq_host] at finalDecoded
      rw [← Text.encode_of_decode finalDecoded, Text.encode_of_decode decoded]

end Bytes

namespace Plan

variable {plan part : Plan} {tree : FileNode} {names : List String}

/-- The jobs that lead to a place are those of the paths that lead there. -/
theorem mem_jobsAt
    {jobs : List Job}
    (member : jobs ∈ plan.jobsAt tree names) :
    ∃ path, (path, jobs) ∈ plan ∧ tree.openPlace? path = some names := by
  obtain ⟨⟨path, same⟩, inPlan, rfl⟩ := List.mem_map.mp member
  rw [List.mem_filter, decide_eq_true_iff] at inPlan
  exact ⟨path, inPlan⟩

/-- The jobs that lead to a place in a part of a plan are some of those in the plan. -/
theorem jobsAt_subset
    (isPart : part <+: plan)
    (tree : FileNode)
    (names : List String) :
    part.jobsAt tree names ⊆ plan.jobsAt tree names :=
  ((isPart.filter _).map _).subset

end Plan

/--
A run that brings the blocks of a plan up to date, followed by a run that takes them out, leaves
every file as it was, if no planned file held a block of its jobs before.  The first run comes to
its end unless something escapes from a file, and the second one always does.
-/
theorem Config.run_strip_run_sync
    (config : Config)
    (only : List String)
    (tree : FileNode)
    (planning : Planning)
    (planned : config.plan tree only = .ok planning)
    (tame : ∀ item ∈ planning.plan, ∀ job ∈ item.2, job.Tame config.values)
    (absent : ∀ item ∈ planning.plan, ∀ text, tree.readText item.1 = .ok text →
      ∀ job ∈ item.2, job.IsAbsent text)
    (diff stripDiff : Bool) :
    ∃ synced result stripped report,
      config.run ⟨.sync, true, diff⟩ only tree = ⟨synced, result⟩ ∧
        (∀ error, result = .error error ↔
          ∃ cause,
            error = .job cause ∧
              planning.plan.Escapes config ⟨.sync, true, diff⟩ tree cause) ∧
        config.run ⟨.strip, true, stripDiff⟩ only synced = ⟨stripped, .ok report⟩ ∧
        stripped.outline = tree.outline ∧
        ∀ path, stripped.read path = tree.read path := by
  have syncWrites : RunOptions.apply ⟨.sync, true, diff⟩ = true :=
    rfl
  have stripWrites : RunOptions.apply ⟨.strip, true, stripDiff⟩ = true :=
    rfl
  have failures : ∀ error, (config.run ⟨.sync, true, diff⟩ only tree).result = .error error ↔ _ :=
    fun _ => run_eq_error_iff_of_plan planned
  obtain ⟨syncedOutline, syncedFiles⟩ :=
    files_processFiles config syncWrites tree planning.plan
  have ran := config.run_eq_of_plan planned ⟨.sync, true, diff⟩
  generalize (processFiles config ⟨.sync, true, diff⟩ tree planning.plan).1 = synced
    at ran syncedOutline syncedFiles
  have plannedAgain : config.plan synced only = .ok planning := by
    rw [config.plan_congr syncedOutline, planned]
  obtain ⟨report, stripRan⟩ := config.exists_run_strip plannedAgain true stripDiff
  obtain ⟨strippedOutline, strippedFiles⟩ :=
    files_processFiles config stripWrites synced planning.plan
  generalize (processFiles config ⟨.strip, true, stripDiff⟩ synced planning.plan).1 = stripped
    at stripRan strippedOutline strippedFiles
  have sameOutline := strippedOutline.trans syncedOutline
  refine
    ⟨synced, _, stripped, report, ran, fun error => ?_, stripRan, sameOutline,
      FileNode.read_congr sameOutline fun names => ?_⟩
  · rw [← failures error, ran]
  have sameJobs : ∀ plan : Plan, plan.jobsAt synced names = plan.jobsAt tree names := by
    intro plan
    simp only [Plan.jobsAt, FileNode.openPlace?_congr syncedOutline]
  rw [strippedFiles, syncedFiles, sameJobs, Plan.reached_of_strip rfl]
  cases present : tree.fileAt names with
  | none =>
      rfl
  | some content =>
      rw [Option.map_some, Option.map_some, Option.some.injEq]
      have isPart := Plan.reached_prefix config ⟨.sync, true, diff⟩ tree planning.plan
      apply foldl_strip_foldl_sync (Plan.jobsAt_subset isPart tree names)
      intro host decoded jobs member
      obtain ⟨path, inPlan, isOpen⟩ := Plan.mem_jobsAt member
      have isPlace := FileNode.place?_of_openPlace? isOpen
      have isRead : tree.readText path = .ok host := by
        rw [FileNode.readText_of_place? isPlace present, decoded]
        rfl
      exact ⟨tame (path, jobs) inPlan, absent (path, jobs) inPlan host isRead⟩

/-- An entry that puts a note behind the line with an `x` of every file. -/
def noteEntry : Entry :=
  ⟨["*"],
    .inline
      ⟨⟨"note", by decide⟩, .literal "x" .after "", true, .default, .ofText "p", none, ""⟩,
    []⟩

/-- The job of the entry in a file. -/
def noteJob : Job :=
  ⟨noteEntry, .ofTemplate "note" (.literal "x" .after "") (.ofText "p") .default none [] "" ""⟩

/-- A configuration with this entry only. -/
def noteConfig : Config :=
  ⟨⟨"/", []⟩, [noteEntry], [], [], []⟩

/-- A file with carriage returns in which the last line is not ended. -/
def noteTree : FileNode :=
  .directory [("a", .file (Text.encode "x\r\ny"))]

/-- The file of the tree is planned. -/
theorem plan_noteConfig :
    noteConfig.plan noteTree [] = .ok ⟨[(⟨"/", ["a"]⟩, [noteJob])], []⟩ := by
  have targets :
      resolveTargets noteTree noteConfig.root noteEntry.files noteConfig.exclude =
        .ok [⟨"/", ["a"]⟩] := by
    decide +kernel
  have built : noteEntry.build .shipped = .ok noteJob.fragment :=
    rfl
  have entries : noteConfig.selected [] = [noteEntry] :=
    rfl
  simp [Config.plan, entries, Planning.addEntry, built, targets, Except.mapError, bind,
    Except.bind, pure, Except.pure, Plan.addJob, Plan.addToFile, Plan.sorted, noteJob]

/-- A note that is put into the file of the tree and taken out again. -/
theorem Config.run_strip_run_sync_note :
    ∃ synced result stripped report,
      noteConfig.run ⟨.sync, true, false⟩ [] noteTree = ⟨synced, result⟩ ∧
        noteConfig.run ⟨.strip, true, false⟩ [] synced = ⟨stripped, .ok report⟩ ∧
        stripped.outline = noteTree.outline ∧
        ∀ path, stripped.read path = noteTree.read path := by
  have rendered : noteJob.payload noteConfig.values = .ok "p" :=
    rfl
  have tame : noteJob.Tame noteConfig.values := by
    refine ⟨Marker.unmarked_of_notMem (by decide), CommentStyle.clean_default, ?_⟩
    intro payload isPayload
    rw [rendered] at isPayload
    cases isPayload
    exact Marker.unmarked_of_notMem (by decide)
  have isRead : noteTree.readText ⟨"/", ["a"]⟩ = .ok "x\r\ny" :=
    rfl
  have absent : ∀ item ∈ [((⟨"/", ["a"]⟩, [noteJob]) : FilePath × List Job)], ∀ text,
      noteTree.readText item.1 = .ok text → ∀ job ∈ item.2, job.IsAbsent text := by
    intro item isItem text itemRead job isJob tag sameName
    obtain rfl : item = (⟨"/", ["a"]⟩, [noteJob]) := by simpa using isItem
    rw [isRead] at itemRead
    cases itemRead
    obtain rfl : job = noteJob := by simpa using isJob
    obtain rfl : tag = ⟨"note", by decide⟩ := Tag.eq_of_name_eq sameName
    decide
  obtain ⟨synced, result, stripped, report, ran, _, restored⟩ :=
    Config.run_strip_run_sync noteConfig [] noteTree _ plan_noteConfig (by simpa using tame) absent
      false false
  exact ⟨synced, result, stripped, report, ran, restored⟩

end BlockSync
