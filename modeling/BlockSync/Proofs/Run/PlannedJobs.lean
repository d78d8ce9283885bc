import BlockSync.Proofs.Run.Plan

namespace BlockSync

/-!
# The jobs of a plan

A plan stands for the jobs that it has for each file.  A job is added for some files exactly if none
of them has a job of the same tag, and then each of them has this job more and nothing else is
different.
-/

namespace Plan

/-- The jobs that a plan has for a file. -/
def jobsOf (path : FilePath) : Plan → List Job
  | [] => []
  | (other, jobs) :: others => if other = path then jobs else jobsOf path others

/-- The jobs of each file, once a job is added to the jobs of some files. -/
def withJob
    (job : Job)
    (targets : List FilePath)
    (jobs : FilePath → List Job)
    (path : FilePath) :
    List Job :=
  if path ∈ targets then jobs path ++ [job] else jobs path

/-- A file to which no job is added has the same jobs as before. -/
theorem withJob_of_notMem
    {job : Job}
    {path : FilePath}
    {targets : List FilePath}
    {jobs : FilePath → List Job}
    (elsewhere : path ∉ targets) :
    withJob job targets jobs path = jobs path :=
  if_neg elsewhere

/-- What it takes for a plan to have certain jobs for each file, and no file without jobs. -/
structure Represents (plan : Plan) (jobs : FilePath → List Job) : Prop where
  distinct :
    plan.Distinct
  mem_iff :
    ∀ path, path ∈ plan.map (·.1) ↔ jobs path ≠ []
  jobsOf_eq :
    ∀ path, plan.jobsOf path = jobs path

variable {plan : Plan} {job : Job} {path : FilePath} {jobs : FilePath → List Job}

/-- A job comes behind the jobs of its file if none of them has its tag. -/
theorem addToFile_of_unshared
    {planned : List Job}
    (unshared : ∀ other ∈ planned, other.tag ≠ job.tag) :
    addToFile path job planned = .ok (planned ++ [job]) := by
  have notFound : (planned.find? fun other => other.tag = job.tag) = none := by
    rw [List.find?_eq_none]
    simpa using unshared
  rw [addToFile, notFound]

/-- A job is refused if a job of its file has its tag. -/
theorem exists_addToFile_eq_error
    {planned : List Job}
    (shared : ∃ other ∈ planned, other.tag = job.tag)
    (path : FilePath) :
    ∃ error, addToFile path job planned = .error error := by
  have isFound : (planned.find? fun other => other.tag = job.tag).isSome := by
    rw [List.find?_isSome]
    simpa using shared
  obtain ⟨other, found⟩ := Option.isSome_iff_exists.mp isFound
  rw [addToFile, found]
  exact ⟨_, rfl⟩

/-- A job is refused if one that is planned for its file has its tag. -/
theorem exists_addJob_eq_error
    (shared : ∃ other ∈ plan.jobsOf path, other.tag = job.tag) :
    ∃ error, addJob job path plan = .error error := by
  induction plan with
  | nil =>
      obtain ⟨other, member, _⟩ := shared
      cases member
  | cons item others inductionHypothesis =>
      obtain ⟨other, planned⟩ := item
      rw [jobsOf] at shared
      rw [addJob]
      split at shared
      · next same =>
        obtain ⟨error, refused⟩ := exists_addToFile_eq_error shared path
        rw [if_pos same, refused]
        exact ⟨error, rfl⟩
      · next different =>
        obtain ⟨error, refused⟩ := inductionHypothesis shared
        rw [if_neg different, refused]
        exact ⟨error, rfl⟩

/-- A job is added for its file, and nothing else, if no job planned there has its tag. -/
theorem exists_addJob_eq_ok
    (unshared : ∀ other ∈ plan.jobsOf path, other.tag ≠ job.tag) :
    ∃ later,
      addJob job path plan = .ok later ∧
        ∀ further, later.jobsOf further = withJob job [path] (plan.jobsOf ·) further := by
  simp only [withJob, List.mem_singleton]
  induction plan with
  | nil =>
      refine ⟨[(path, [job])], rfl, fun further => ?_⟩
      by_cases here : further = path
      · rw [if_pos here, here]
        exact if_pos rfl
      · rw [if_neg here]
        exact if_neg (Ne.symm here)
  | cons item others inductionHypothesis =>
      obtain ⟨other, planned⟩ := item
      rw [jobsOf] at unshared
      rw [addJob]
      split at unshared
      · next same =>
        rw [if_pos same, addToFile_of_unshared unshared]
        refine ⟨(other, planned ++ [job]) :: others, rfl, fun further => ?_⟩
        rw [jobsOf, jobsOf, same]
        by_cases here : further = path
        · rw [if_pos here, if_pos here.symm, if_pos here.symm]
        · rw [if_neg here, if_neg (Ne.symm here), if_neg (Ne.symm here)]
      · next different =>
        obtain ⟨later, added, jobsOfLater⟩ := inductionHypothesis unshared
        rw [if_neg different, added]
        refine ⟨(other, planned) :: later, rfl, fun further => ?_⟩
        rw [jobsOf, jobsOf, jobsOfLater]
        by_cases here : further = path
        · rw [if_pos here, if_pos here, here, if_neg different, if_neg different]
        · rw [if_neg here, if_neg here]

/-- The jobs of an item of a plan are those that the plan has for its path. -/
theorem jobsOf_of_mem
    (distinct : plan.Distinct)
    {item : FilePath × List Job}
    (member : item ∈ plan) :
    plan.jobsOf item.1 = item.2 := by
  induction plan with
  | nil =>
      cases member
  | cons first others inductionHypothesis =>
      obtain ⟨notLater, distinctLater⟩ := List.nodup_cons.mp distinct
      rcases List.mem_cons.mp member with rfl | later
      · exact if_pos rfl
      · have different : first.1 ≠ item.1 := by
          intro same
          have planned : item.1 ∈ others.map (·.1) := List.mem_map_of_mem later
          rw [← same] at planned
          exact notLater planned
        exact (if_neg different).trans (inductionHypothesis distinctLater later)

namespace Represents

/-- The empty plan has no jobs for any file. -/
theorem nil : Represents [] fun _ => [] where
  distinct := List.nodup_nil
  mem_iff := by simp
  jobsOf_eq := fun _ => rfl

/-- A plan to which a job is added has this job more in its file. -/
theorem addJob
    (represents : plan.Represents jobs)
    (unshared : ∀ other ∈ jobs path, other.tag ≠ job.tag) :
    ∃ later,
      Plan.addJob job path plan = .ok later ∧ later.Represents (withJob job [path] jobs) := by
  obtain ⟨distinct, mem_iff, jobsOf_eq⟩ := represents
  rw [← jobsOf_eq] at unshared
  obtain ⟨later, added, jobsOfLater⟩ := exists_addJob_eq_ok unshared
  refine ⟨later, added, distinct.addJob added, fun further => ?_, fun further => ?_⟩
  · have isPlanned : further ∈ later.map (·.1) ↔ further ∈ plan.map (·.1) ∨ further = path := by
      rw [map_fst_addJob added]
      split
      · next already =>
        exact ⟨.inl, fun planned => planned.elim id fun same => same ▸ already⟩
      · rw [List.mem_append, List.mem_singleton]
    rw [isPlanned, mem_iff, withJob]
    split
    · next here =>
      rw [List.mem_singleton] at here
      simp [here]
    · next elsewhere =>
      rw [List.mem_singleton] at elsewhere
      simp [elsewhere]
  · rw [jobsOfLater]
    simp only [withJob, jobsOf_eq]

end Represents

/-- A job that is added for one file and then for others is added for all of them. -/
theorem withJob_cons
    {targets : List FilePath}
    (notLater : path ∉ targets) :
    withJob job targets (withJob job [path] jobs) = withJob job (path :: targets) jobs := by
  funext further
  simp only [withJob, List.mem_cons]
  by_cases here : further = path
  · subst here
    simp [notLater]
  · simp [here]

/-- Adds a job for some files, one after another. -/
def addAll (job : Job) (targets : List FilePath) (plan : Plan) : Except PlanError Plan :=
  targets.foldlM (fun (plan : Plan) path => (plan.addJob job path).mapError PlanError.config) plan

namespace Represents

variable {targets : List FilePath}

/-- A job is added for files none of which has a job with its tag. -/
theorem addAll_eq_ok
    (represents : plan.Represents jobs)
    (nodup : targets.Nodup)
    (unshared : ∀ path ∈ targets, ∀ other ∈ jobs path, other.tag ≠ job.tag) :
    ∃ later,
      plan.addAll job targets = .ok later ∧ later.Represents (withJob job targets jobs) := by
  induction targets generalizing plan jobs with
  | nil =>
      exact ⟨plan, rfl, represents⟩
  | cons path targets inductionHypothesis =>
      obtain ⟨notLater, nodupLater⟩ := List.nodup_cons.mp nodup
      obtain ⟨unsharedHere, unsharedLater⟩ := List.forall_mem_cons.mp unshared
      obtain ⟨next, added, representsNext⟩ := represents.addJob unsharedHere
      have unsharedNext :
          ∀ further ∈ targets, ∀ other ∈ withJob job [path] jobs further, other.tag ≠ job.tag := by
        intro further member
        have different : further ≠ path := fun same => notLater (same ▸ member)
        rw [withJob_of_notMem (mt List.mem_singleton.mp different)]
        exact unsharedLater further member
      obtain ⟨later, addedLater, representsLater⟩ :=
        inductionHypothesis representsNext nodupLater unsharedNext
      rw [withJob_cons notLater] at representsLater
      refine ⟨later, ?_, representsLater⟩
      rw [addAll, List.foldlM_cons, added]
      exact addedLater

/-- A job is refused if one of its files has a job with its tag. -/
theorem addAll_eq_error
    (represents : plan.Represents jobs)
    (nodup : targets.Nodup)
    (shared : ∃ path ∈ targets, ∃ other ∈ jobs path, other.tag = job.tag) :
    ∃ error, plan.addAll job targets = .error (.config error) := by
  induction targets generalizing plan jobs with
  | nil =>
      obtain ⟨path, member, _⟩ := shared
      cases member
  | cons path targets inductionHypothesis =>
      obtain ⟨notLater, nodupLater⟩ := List.nodup_cons.mp nodup
      rw [addAll, List.foldlM_cons]
      by_cases sharedHere : ∃ other ∈ jobs path, other.tag = job.tag
      · rw [← represents.jobsOf_eq] at sharedHere
        obtain ⟨error, refused⟩ := exists_addJob_eq_error sharedHere
        rw [refused]
        exact ⟨error, rfl⟩
      · push Not at sharedHere
        obtain ⟨next, added, representsNext⟩ := represents.addJob sharedHere
        have sharedNext :
            ∃ further ∈ targets, ∃ other ∈ withJob job [path] jobs further,
              other.tag = job.tag := by
          obtain ⟨further, member, other, isOther, sameTag⟩ := shared
          have different : further ≠ path := by
            rintro rfl
            exact sharedHere other isOther sameTag
          have later : further ∈ targets := (List.mem_cons.mp member).resolve_left different
          refine ⟨further, later, other, ?_, sameTag⟩
          rwa [withJob_of_notMem (mt List.mem_singleton.mp different)]
        obtain ⟨error, refused⟩ := inductionHypothesis representsNext nodupLater sharedNext
        rw [added]
        exact ⟨error, refused⟩

end Represents

end Plan

end BlockSync
