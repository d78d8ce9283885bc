import BlockSync.Proofs.Merge.Outcome
import BlockSync.Run.Process

namespace BlockSync

/-!
# What a job does

A job whose required values are all set merges the block of its payload, any other job takes the
block out.  Either way its tag has to be valid, and its values need texts.  Taking blocks out asks
for no values, and never fails but for the tag.
-/

namespace Job

/-- Whether all required values of a job are set, if its values have texts. -/
def isComplete (shared : Table) (job : Job) : Except FragmentError Bool :=
  (job.values shared).map fun values =>
    (job.fragment.missingValues (values.over job.fragment.defaults)).isEmpty

/-- The payload of a job. -/
def payload (shared : Table) (job : Job) : Except FragmentError String := do
  let raw ← job.fragment.renderPayload (← job.values shared)
  raw.toText.mapError fun error => .merge (.unencodable error)

/-- Jobs one after another, each on the text that the one before it left. -/
def foldAll
    (mode : RunMode)
    (shared : Table)
    (text : String)
    (jobs : List Job) :
    Except FragmentError String :=
  jobs.foldlM (fun text job => (job.run mode shared text).map MergeResult.contents) text

/-- What a job that succeeds did to a text. -/
inductive Done (shared : Table) (job : Job) (text : String) : MergeResult → Prop where
  | merged (tag : Tag) (payload : String) (result : MergeResult) :
      tag.name = job.tag →
      job.isComplete shared = .ok true →
      job.payload shared = .ok payload →
      Merge.Outcome text tag job.fragment.anchor payload job.fragment.style result →
      Done shared job text result
  | removed (tag : Tag) :
      tag.name = job.tag →
      job.isComplete shared = .ok false →
      Done shared job text (Merge.removeTagged text tag)

/-- A job that writes no markers but those of its own block. -/
structure Tame (shared : Table) (job : Job) : Prop where
  tagUnmarked :
    Marker.Unmarked job.tag.toList
  clean :
    job.fragment.style.Clean
  payloadUnmarked :
    ∀ payload, job.payload shared = .ok payload → Marker.Unmarked payload.toList

/-- A tame job whose fingerprint is read back from its block. -/
structure Traceable (shared : Table) (job : Job) : Prop extends Tame shared job where
  tagTokenless :
    ¬ Fingerprint.HoldsToken job.tag.toList
  openerTokenless :
    ¬ Fingerprint.HoldsToken job.fragment.style.opener.toList

/-- Whether the tags of all jobs are valid. -/
def AllNamed (jobs : List Job) : Prop :=
  ∀ job ∈ jobs, IsTagName job.tag

variable {shared : Table} {job : Job} {text : String} {result : MergeResult}

/-- The tag of a tame job lacks the keyword of markers. -/
theorem Tame.unmarked
    {tag : Tag}
    (tame : job.Tame shared)
    (sameName : tag.name = job.tag) :
    Marker.Unmarked tag.chars := by
  rw [Tag.chars, sameName]
  exact tame.tagUnmarked

/-- The tag of a traceable job holds no token. -/
theorem Traceable.tokenless
    {tag : Tag}
    (traceable : job.Traceable shared)
    (sameName : tag.name = job.tag) :
    ¬ Fingerprint.HoldsToken tag.chars := by
  rw [Tag.chars, sameName]
  exact traceable.tagTokenless

/-- Only a job with a valid tag succeeds. -/
theorem Done.named (done : Done shared job text result) : IsTagName job.tag := by
  cases done with
  | merged tag _ _ sameName =>
      rw [← sameName]
      exact tag.isTagName
  | removed tag sameName =>
      rw [← sameName]
      exact tag.isTagName

/-- A job is complete or not once its values have texts. -/
theorem isComplete_eq_ok_iff
    {complete : Bool} :
    job.isComplete shared = .ok complete ↔
      ∃ values,
        job.values shared = .ok values ∧
          (job.fragment.missingValues (values.over job.fragment.defaults)).isEmpty = complete := by
  rw [isComplete]
  cases job.values shared <;> simp [Except.map]

/-- A job has a payload if its values have texts and are rendered to a text of characters. -/
theorem payload_eq_ok_iff
    {payload : String} :
    job.payload shared = .ok payload ↔
      ∃ values raw,
        job.values shared = .ok values ∧
          job.fragment.renderPayload values = .ok raw ∧ raw.toText = .ok payload := by
  rw [Job.payload]
  simp only [Except.bind_eq_ok_iff, Except.mapError_eq_ok_iff]
  constructor
  · rintro ⟨values, valued, raw, rendered, isText⟩
    exact ⟨values, raw, valued, rendered, isText⟩
  · rintro ⟨values, raw, valued, rendered, isText⟩
    exact ⟨values, valued, raw, rendered, isText⟩

/-- A job that brings its block up to date succeeds with what it did. -/
theorem run_sync_eq_ok_iff :
    job.run .sync shared text = .ok result ↔ Done shared job text result := by
  rw [run, Except.bind_eq_ok_iff]
  constructor
  · rintro ⟨values, valued, ran⟩
    rw [Fragment.sync] at ran
    split at ran
    · next complete =>
      rw [Fragment.apply, Except.bind_eq_ok_iff] at ran
      obtain ⟨raw, rendered, merged⟩ := ran
      rw [Except.mapError_eq_ok_iff, Merge.addOrUpdate_raw_eq_ok_iff] at merged
      obtain ⟨tag, payload, sameName, isText, outcome⟩ := merged
      exact
        .merged tag payload result sameName (isComplete_eq_ok_iff.mpr ⟨values, valued, complete⟩)
          (payload_eq_ok_iff.mpr ⟨values, raw, valued, rendered, isText⟩) outcome
    · next incomplete =>
      rw [Fragment.remove, Except.mapError_eq_ok_iff, Merge.remove_eq_ok_iff] at ran
      obtain ⟨tag, sameName, rfl⟩ := ran
      exact
        .removed tag sameName
          (isComplete_eq_ok_iff.mpr ⟨values, valued, Bool.eq_false_iff.mpr incomplete⟩)
  · rintro (⟨tag, payload, _, sameName, complete, rendered, outcome⟩ |
      ⟨tag, sameName, incomplete⟩)
    · obtain ⟨values, valued, complete⟩ := isComplete_eq_ok_iff.mp complete
      obtain ⟨others, raw, alsoValued, rendered, isText⟩ := payload_eq_ok_iff.mp rendered
      cases valued.symm.trans alsoValued
      refine ⟨values, valued, ?_⟩
      rw [Fragment.sync, if_pos complete, Fragment.apply, Except.bind_eq_ok_iff]
      refine ⟨raw, rendered, ?_⟩
      rw [Except.mapError_eq_ok_iff, Merge.addOrUpdate_raw_eq_ok_iff]
      exact ⟨tag, payload, sameName, isText, outcome⟩
    · obtain ⟨values, valued, incomplete⟩ := isComplete_eq_ok_iff.mp incomplete
      refine ⟨values, valued, ?_⟩
      rw [Fragment.sync, if_neg (Bool.eq_false_iff.mp incomplete), Fragment.remove,
        Except.mapError_eq_ok_iff, Merge.remove_eq_ok_iff]
      exact ⟨tag, sameName, rfl⟩

/-- A job that takes its block out succeeds exactly if its tag is valid. -/
theorem run_strip_eq_ok_iff :
    job.run .strip shared text = .ok result ↔
      ∃ tag : Tag, tag.name = job.tag ∧ result = Merge.removeTagged text tag := by
  rw [run, Fragment.remove, Except.mapError_eq_ok_iff, Merge.remove_eq_ok_iff]
  exact Iff.rfl

/-- A job that takes its block out fails for its tag only, which is expected. -/
theorem isExpected_of_run_strip
    {error : FragmentError}
    (failed : job.run .strip shared text = .error error) :
    error.isExpected = true := by
  rw [run, Fragment.remove] at failed
  obtain ⟨cause, refused, rfl⟩ := Except.mapError_eq_error_iff.mp failed
  rcases Except.bind_eq_error_iff.mp refused with invalid | ⟨_, _, returned⟩
  · obtain ⟨_, _, rfl⟩ := Except.mapError_eq_error_iff.mp invalid
    rfl
  · cases returned

/-- Jobs succeed one after another exactly if the first does, and the others on what it left. -/
theorem runAll_cons_eq_ok_iff
    {mode : RunMode}
    {others : List Job}
    {final : String} :
    (runAll mode shared text (job :: others)).2 = .ok final ↔
      ∃ result,
        job.run mode shared text = .ok result ∧
          (runAll mode shared result.contents others).2 = .ok final := by
  rw [runAll]
  cases ran : job.run mode shared text with
  | error error =>
      simp
  | ok result =>
      simp

/-- Jobs fail one after another exactly if the first does, or one of the others on what it left. -/
theorem runAll_cons_eq_error_iff
    {mode : RunMode}
    {others : List Job}
    {error : FragmentError} :
    (runAll mode shared text (job :: others)).2 = .error error ↔
      job.run mode shared text = .error error ∨
        ∃ result,
          job.run mode shared text = .ok result ∧
            (runAll mode shared result.contents others).2 = .error error := by
  rw [runAll]
  cases ran : job.run mode shared text with
  | error error =>
      simp
  | ok result =>
      simp

/-- If jobs fail one after another, one of them fails on some text. -/
theorem exists_run_of_runAll
    {mode : RunMode}
    {jobs : List Job}
    {error : FragmentError}
    (failed : (runAll mode shared text jobs).2 = .error error) :
    ∃ job ∈ jobs, ∃ text, job.run mode shared text = .error error := by
  induction jobs generalizing text with
  | nil =>
      cases failed
  | cons job others inductionHypothesis =>
      rcases runAll_cons_eq_error_iff.mp failed with failedFirst | ⟨result, _, failedLater⟩
      · exact ⟨job, List.mem_cons_self, text, failedFirst⟩
      · obtain ⟨other, isOther, here, failedThere⟩ := inductionHypothesis failedLater
        exact ⟨other, List.mem_cons_of_mem job isOther, here, failedThere⟩

/-- Carrying out jobs with their reports comes to the same text. -/
theorem foldAll_eq
    (mode : RunMode)
    (shared : Table)
    (text : String)
    (jobs : List Job) :
    foldAll mode shared text jobs = (runAll mode shared text jobs).2 := by
  induction jobs generalizing text with
  | nil =>
      rfl
  | cons job others inductionHypothesis =>
      rw [foldAll, List.foldlM_cons, runAll]
      cases ran : job.run mode shared text with
      | error error =>
          rfl
      | ok result =>
          exact inductionHypothesis result.contents

/-- Jobs that all leave a text alone say so, one by one. -/
theorem runAll_of_unchanged
    {mode : RunMode}
    {jobs : List Job}
    (unchanged : ∀ job ∈ jobs, job.run mode shared text = .ok (.unchanged text)) :
    runAll mode shared text jobs =
      (jobs.map fun job => job.report .unchanged none, .ok text) := by
  induction jobs with
  | nil =>
      rfl
  | cons job others inductionHypothesis =>
      rw [List.forall_mem_cons] at unchanged
      rw [runAll, unchanged.1]
      simp only [MergeResult.unchanged, inductionHypothesis unchanged.2]
      rfl

/-- Jobs that all succeed in bringing their blocks up to date have valid tags. -/
theorem allNamed_of_runAll_sync
    {jobs : List Job}
    {final : String}
    (ran : (runAll .sync shared text jobs).2 = .ok final) :
    AllNamed jobs := by
  induction jobs generalizing text with
  | nil =>
      simp [AllNamed]
  | cons job others inductionHypothesis =>
      obtain ⟨result, ranFirst, ranOthers⟩ := runAll_cons_eq_ok_iff.mp ran
      exact List.forall_mem_cons.mpr
        ⟨(run_sync_eq_ok_iff.mp ranFirst).named, inductionHypothesis ranOthers⟩

end Job

end BlockSync
