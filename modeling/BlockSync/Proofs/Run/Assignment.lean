import BlockSync.Cli.Session
import BlockSync.Proofs.Run.Failure
import BlockSync.Proofs.Run.PlannedJobs
import BlockSync.Proofs.Targets

namespace BlockSync

/-!
# Which jobs are planned

An entry has a job in each of its files.  A plan is made by adding these jobs one after another, and
each job is only compared with those that were added before it.  Still there is no plan exactly if
two entries clash, and otherwise each file has the jobs of all entries that it is a target of.
-/

/-- The job of an entry, if its fragment can be built. -/
def Entry.job? (entry : Entry) : Option Job :=
  (entry.build .shipped).toOption.map fun fragment => ⟨entry, fragment⟩

/-- The job of an entry has the fragment that is built for it. -/
theorem Entry.job?_eq_some_iff
    {entry : Entry}
    {job : Job} :
    entry.job? = some job ↔ job.entry = entry ∧ entry.build .shipped = .ok job.fragment := by
  rw [job?, Option.map_eq_some_iff]
  simp only [Except.toOption_eq_some_iff]
  constructor
  · rintro ⟨fragment, built, rfl⟩
    exact ⟨rfl, built⟩
  · rintro ⟨rfl, built⟩
    exact ⟨job.fragment, built, rfl⟩

namespace Config

/-- The target files of an entry; none if these cannot be told. -/
def targets (config : Config) (tree : FileNode) (entry : Entry) : List FilePath :=
  (resolveTargets tree config.root entry.files config.exclude).toOption.getD []

/-- The jobs of a file: those of the entries that it is a target of. -/
def jobsFor
    (config : Config)
    (tree : FileNode)
    (entries : List Entry)
    (path : FilePath) :
    List Job :=
  (entries.filter fun entry => path ∈ config.targets tree entry).filterMap Entry.job?

/-- Whether the fragments of two entries have the same tag, and the entries a file in common. -/
structure Clash (config : Config) (tree : FileNode) (first second : Entry) : Prop where
  sharedTag :
    ∃ fragment other,
      first.build .shipped = .ok fragment ∧
        second.build .shipped = .ok other ∧
        fragment.tag = other.tag
  sharedTarget :
    ∃ path, path ∈ config.targets tree first ∧ path ∈ config.targets tree second

/-- Whether no entry clashes with a later one. -/
def NoneClash (config : Config) (tree : FileNode) (entries : List Entry) : Prop :=
  entries.Pairwise fun first second => ¬ config.Clash tree first second

/-- What it takes for an entry to be planned before its jobs are compared with others. -/
structure Ready (config : Config) (tree : FileNode) (entry : Entry) : Prop where
  built :
    ∃ fragment, entry.build .shipped = .ok fragment
  found :
    resolveTargets tree config.root entry.files config.exclude =
      .ok (config.targets tree entry)

variable
  {config : Config}
  {tree : FileNode}
  {entry first second : Entry}
  {entries : List Entry}
  {path : FilePath}
  {job : Job}

/-- Two entries clash whichever comes first. -/
theorem Clash.symm (clash : config.Clash tree first second) : config.Clash tree second first := by
  obtain ⟨⟨fragment, other, built, otherBuilt, sameTag⟩, path, isFirst, isSecond⟩ := clash
  exact ⟨⟨other, fragment, otherBuilt, built, sameTag.symm⟩, path, isSecond, isFirst⟩

/-- No entry clashes with a later one when one is added that none clashes with. -/
theorem NoneClash.concat
    (apart : config.NoneClash tree entries)
    (apartHere : ∀ earlier ∈ entries, ¬ config.Clash tree earlier entry) :
    config.NoneClash tree (entries ++ [entry]) := by
  refine List.pairwise_append.mpr ⟨apart, List.pairwise_singleton _ _, ?_⟩
  intro earlier member other isOther
  rw [List.mem_singleton.mp isOther]
  exact apartHere earlier member

/-- An entry that is ready has a job. -/
theorem Ready.exists_job?_eq_some
    (ready : config.Ready tree entry) :
    ∃ job, entry.job? = some job := by
  obtain ⟨fragment, built⟩ := ready.built
  exact ⟨⟨entry, fragment⟩, Entry.job?_eq_some_iff.mpr ⟨rfl, built⟩⟩

/-- An entry has no target file twice. -/
theorem nodup_targets
    (distinct : tree.Distinct)
    (entry : Entry) :
    (config.targets tree entry).Nodup := by
  rw [targets]
  cases found : resolveTargets tree config.root entry.files config.exclude with
  | error fault =>
      exact List.nodup_nil
  | ok paths =>
      obtain ⟨_, _, _, _, _, _, rfl⟩ := Targets.resolveTargets_eq_ok_iff.mp found
      exact Targets.nodup_find distinct

/-- A job of a file is the job of an entry that the file is a target of. -/
theorem mem_jobsFor_iff :
    job ∈ config.jobsFor tree entries path ↔
      ∃ entry ∈ entries, path ∈ config.targets tree entry ∧ entry.job? = some job := by
  rw [jobsFor, List.mem_filterMap]
  simp only [List.mem_filter, decide_eq_true_eq, and_assoc]

/-- An entry more has its job in each of its target files. -/
theorem jobsFor_concat
    (entries : List Entry)
    (isJob : entry.job? = some job) :
    config.jobsFor tree (entries ++ [entry]) =
      Plan.withJob job (config.targets tree entry) (config.jobsFor tree entries) := by
  funext path
  rw [jobsFor, List.filter_append, List.filterMap_append, Plan.withJob]
  split
  · next isTarget => simp [isTarget, isJob, jobsFor]
  · next notTarget => simp [notTarget, jobsFor]

/-- The entries of the jobs of a file are those that it is a target of, in their order. -/
theorem map_entry_jobsFor
    (ready : ∀ entry ∈ entries, config.Ready tree entry) :
    (config.jobsFor tree entries path).map Job.entry =
      entries.filter fun entry => path ∈ config.targets tree entry := by
  rw [jobsFor, List.map_filterMap]
  refine (List.filterMap_congr fun entry member => ?_).trans List.filterMap_some
  obtain ⟨job, isJob⟩ := (ready entry (List.mem_of_mem_filter member)).exists_job?_eq_some
  rw [isJob, Option.map_some, (Entry.job?_eq_some_iff.mp isJob).1]

/-- There are jobs for the target files of entries. -/
theorem jobsFor_ne_nil_iff
    (ready : ∀ entry ∈ entries, config.Ready tree entry) :
    config.jobsFor tree entries path ≠ [] ↔
      ∃ entry ∈ entries, path ∈ config.targets tree entry := by
  rw [ne_eq, ← List.map_eq_nil_iff (f := Job.entry), map_entry_jobsFor ready,
    List.filter_eq_nil_iff]
  simp

/-- A file shares a tag with a further entry if an entry clashes with it there. -/
theorem exists_shared_iff
    (isJob : entry.job? = some job) :
    (∃ path ∈ config.targets tree entry, ∃ other ∈ config.jobsFor tree entries path,
        other.tag = job.tag) ↔
      ∃ earlier ∈ entries, config.Clash tree earlier entry := by
  obtain ⟨_, built⟩ := Entry.job?_eq_some_iff.mp isJob
  simp only [mem_jobsFor_iff]
  constructor
  · rintro ⟨path, isTarget, other, ⟨earlier, member, alsoTarget, isOther⟩, sameTag⟩
    obtain ⟨_, otherBuilt⟩ := Entry.job?_eq_some_iff.mp isOther
    exact
      ⟨earlier, member, ⟨other.fragment, job.fragment, otherBuilt, built, sameTag⟩,
        path, alsoTarget, isTarget⟩
  · rintro ⟨earlier, member, ⟨other, fragment, otherBuilt, alsoBuilt, sameTag⟩, path, alsoTarget,
      isTarget⟩
    cases Except.ok.inj (built.symm.trans alsoBuilt)
    exact
      ⟨path, isTarget, ⟨earlier, other⟩,
        ⟨earlier, member, alsoTarget, Entry.job?_eq_some_iff.mpr ⟨rfl, otherBuilt⟩⟩, sameTag⟩

/-- If no entries clash, the jobs of a file have different tags. -/
theorem nodup_tag_jobsFor
    (apart : config.NoneClash tree entries)
    (path : FilePath) :
    ((config.jobsFor tree entries path).map Job.tag).Nodup := by
  rw [List.Nodup, List.pairwise_map, jobsFor, List.pairwise_filterMap, List.pairwise_filter]
  refine apart.imp ?_
  intro first second notClash isFirst isSecond job isJob other isOther sameTag
  obtain ⟨_, built⟩ := Entry.job?_eq_some_iff.mp isJob
  obtain ⟨_, otherBuilt⟩ := Entry.job?_eq_some_iff.mp isOther
  exact
    notClash
      ⟨⟨job.fragment, other.fragment, built, otherBuilt, sameTag⟩, path,
        of_decide_eq_true isFirst, of_decide_eq_true isSecond⟩

end Config

namespace Planning

variable
  {config : Config}
  {tree : FileNode}
  {planning : Planning}
  {entry : Entry}
  {job : Job}
  {done entries : List Entry}

/-- What it takes to have planned some entries: their jobs, and those that match no file. -/
structure Represents
    (config : Config)
    (tree : FileNode)
    (entries : List Entry)
    (planning : Planning) : Prop where
  plan :
    planning.plan.Represents (config.jobsFor tree entries)
  unmatched :
    planning.unmatched = entries.filter fun entry => (config.targets tree entry).isEmpty

/-- The job of an entry is added for each of its files, if there are any. -/
theorem addEntry_eq
    (ready : config.Ready tree entry)
    (isJob : entry.job? = some job) :
    planning.addEntry tree config entry =
      if (config.targets tree entry).isEmpty then
        .ok { planning with unmatched := planning.unmatched ++ [entry] }
      else
        (planning.plan.addAll job (config.targets tree entry)).map fun plan =>
          { planning with plan := plan } := by
  obtain ⟨rfl, built⟩ := Entry.job?_eq_some_iff.mp isJob
  rw [addEntry, built, ready.found]
  rfl

/-- An entry that clashes with none before it is planned. -/
theorem Represents.addEntry_eq_ok
    (distinct : tree.Distinct)
    (represents : planning.Represents config tree done)
    (ready : config.Ready tree entry)
    (apart : ∀ earlier ∈ done, ¬ config.Clash tree earlier entry) :
    ∃ later,
      planning.addEntry tree config entry = .ok later ∧
        later.Represents config tree (done ++ [entry]) := by
  obtain ⟨job, isJob⟩ := ready.exists_job?_eq_some
  obtain ⟨plan, unmatched⟩ := represents
  rw [addEntry_eq ready isJob]
  split
  · next noTargets =>
    refine ⟨_, rfl, ?_, ?_⟩
    · rw [Config.jobsFor_concat done isJob, List.isEmpty_iff.mp noTargets]
      exact plan
    · simp [unmatched, noTargets]
  · next someTargets =>
    have unshared : ∀ path ∈ config.targets tree entry,
        ∀ other ∈ config.jobsFor tree done path, other.tag ≠ job.tag := by
      intro path isTarget other isOther sameTag
      obtain ⟨earlier, member, clash⟩ :=
        (Config.exists_shared_iff isJob).mp ⟨path, isTarget, other, isOther, sameTag⟩
      exact apart earlier member clash
    obtain ⟨later, added, representsLater⟩ :=
      plan.addAll_eq_ok (Config.nodup_targets distinct entry) unshared
    rw [added]
    refine ⟨_, rfl, ?_, ?_⟩
    · rw [Config.jobsFor_concat done isJob]
      exact representsLater
    · simp [unmatched, someTargets]

/-- An entry that clashes with one before it is refused. -/
theorem Represents.addEntry_eq_error
    (distinct : tree.Distinct)
    (represents : planning.Represents config tree done)
    (ready : config.Ready tree entry)
    (clashes : ∃ earlier ∈ done, config.Clash tree earlier entry) :
    ∃ error, planning.addEntry tree config entry = .error (.config error) := by
  obtain ⟨job, isJob⟩ := ready.exists_job?_eq_some
  have shared := (Config.exists_shared_iff isJob).mpr clashes
  have someTargets : (config.targets tree entry).isEmpty = false := by
    obtain ⟨path, isTarget, _⟩ := shared
    exact List.isEmpty_eq_false_iff_exists_mem.mpr ⟨path, isTarget⟩
  obtain ⟨error, refused⟩ :=
    represents.plan.addAll_eq_error (Config.nodup_targets distinct entry) shared
  rw [addEntry_eq ready isJob, someTargets, refused]
  exact ⟨error, rfl⟩

/-- Entries that do not clash are planned one after another. -/
theorem Represents.foldlM_eq_ok
    (distinct : tree.Distinct)
    (represents : planning.Represents config tree done)
    (ready : ∀ entry ∈ entries, config.Ready tree entry)
    (apart : config.NoneClash tree (done ++ entries)) :
    ∃ later,
      entries.foldlM (addEntry tree config) planning = .ok later ∧
        later.Represents config tree (done ++ entries) := by
  induction entries generalizing done planning with
  | nil =>
      rw [List.append_nil]
      exact ⟨planning, rfl, represents⟩
  | cons entry entries inductionHypothesis =>
      obtain ⟨readyHere, readyLater⟩ := List.forall_mem_cons.mp ready
      have apartHere : ∀ earlier ∈ done, ¬ config.Clash tree earlier entry :=
        fun earlier member =>
          (List.pairwise_append.mp apart).2.2 earlier member entry List.mem_cons_self
      obtain ⟨next, added, representsNext⟩ :=
        represents.addEntry_eq_ok distinct readyHere apartHere
      rw [List.append_cons] at apart ⊢
      rw [List.foldlM_cons, added]
      exact inductionHypothesis representsNext readyLater apart

/-- The first entry that clashes with one before it is refused. -/
theorem Represents.foldlM_eq_error
    (distinct : tree.Distinct)
    (represents : planning.Represents config tree done)
    (ready : ∀ entry ∈ entries, config.Ready tree entry)
    (apart : config.NoneClash tree done)
    (clashes : ¬ config.NoneClash tree (done ++ entries)) :
    ∃ error, entries.foldlM (addEntry tree config) planning = .error (.config error) := by
  induction entries generalizing done planning with
  | nil =>
      rw [List.append_nil] at clashes
      exact (clashes apart).elim
  | cons entry entries inductionHypothesis =>
      obtain ⟨readyHere, readyLater⟩ := List.forall_mem_cons.mp ready
      rw [List.foldlM_cons]
      by_cases clashesHere : ∃ earlier ∈ done, config.Clash tree earlier entry
      · obtain ⟨error, refused⟩ := represents.addEntry_eq_error distinct readyHere clashesHere
        rw [refused]
        exact ⟨error, rfl⟩
      · push Not at clashesHere
        obtain ⟨next, added, representsNext⟩ :=
          represents.addEntry_eq_ok distinct readyHere clashesHere
        have apartNext : config.NoneClash tree (done ++ [entry]) :=
          apart.concat clashesHere
        rw [List.append_cons] at clashes
        rw [added]
        exact inductionHypothesis representsNext readyLater apartNext clashes

/--
What it takes for a plan to be complete for some entries: its files are their targets in the order
of the paths, each with the jobs of the entries that it is a target of, in the order of these.
-/
structure IsComplete
    (config : Config)
    (tree : FileNode)
    (entries : List Entry)
    (planning : Planning) : Prop where
  targets :
    ∀ path,
      path ∈ planning.plan.map (·.1) ↔ ∃ entry ∈ entries, path ∈ config.targets tree entry
  distinct :
    (planning.plan.map (·.1)).Nodup
  ordered :
    (planning.plan.map (·.1)).Pairwise fun path other => path.precedes other = true
  jobs :
    ∀ item ∈ planning.plan,
      item.2.map Job.entry = entries.filter fun entry => item.1 ∈ config.targets tree entry
  built :
    ∀ item ∈ planning.plan, ∀ job ∈ item.2, job.entry.build .shipped = .ok job.fragment
  tags :
    ∀ item ∈ planning.plan, (item.2.map Job.tag).Nodup
  unmatched :
    planning.unmatched = entries.filter fun entry => (config.targets tree entry).isEmpty

/-- Once all entries are planned, the plan is put in order and is complete. -/
theorem Represents.isComplete
    (represents : planning.Represents config tree entries)
    (ready : ∀ entry ∈ entries, config.Ready tree entry)
    (apart : config.NoneClash tree entries) :
    IsComplete config tree entries { planning with plan := planning.plan.sorted } := by
  obtain ⟨⟨distinct, mem_iff, jobsOf_eq⟩, unmatched⟩ := represents
  have samePaths : (planning.plan.sorted.map (·.1)).Perm (planning.plan.map (·.1)) :=
    (List.mergeSort_perm _ _).map _
  have jobsOfItem : ∀ item ∈ planning.plan.sorted,
      item.2 = config.jobsFor tree entries item.1 := by
    intro item member
    rw [← jobsOf_eq, Plan.jobsOf_of_mem distinct (List.mem_mergeSort.mp member)]
  refine ⟨fun path => ?_, samePaths.nodup_iff.mpr distinct, ?_, ?_, ?_, ?_, unmatched⟩
  · rw [samePaths.mem_iff, mem_iff, Config.jobsFor_ne_nil_iff ready]
  · rw [List.pairwise_map]
    exact
      List.pairwise_mergeSort
        (fun first second third => FilePath.precedes_trans first.1 second.1 third.1)
        (fun first second => FilePath.precedes_total first.1 second.1) planning.plan
  · intro item member
    rw [jobsOfItem item member, Config.map_entry_jobsFor ready]
  · intro item member job isJob
    rw [jobsOfItem item member] at isJob
    obtain ⟨entry, _, _, isJobOf⟩ := Config.mem_jobsFor_iff.mp isJob
    obtain ⟨rfl, built⟩ := Entry.job?_eq_some_iff.mp isJobOf
    exact built
  · intro item member
    rw [jobsOfItem item member]
    exact Config.nodup_tag_jobsFor apart item.1

end Planning

namespace Config

/-- Whether two of some entries clash, in different places of the list. -/
def HasClash (config : Config) (tree : FileNode) (entries : List Entry) : Prop :=
  ∃ (i j : Nat) (first second : Entry),
    i ≠ j ∧ entries[i]? = some first ∧ entries[j]? = some second ∧ config.Clash tree first second

variable {config : Config} {tree : FileNode} {entries : List Entry} {only : List String}

/-- No two entries clash exactly if none clashes with a later one. -/
theorem not_hasClash_iff :
    ¬ config.HasClash tree entries ↔ config.NoneClash tree entries := by
  rw [NoneClash, List.pairwise_iff_getElem]
  constructor
  · intro notClash i j isFirst isSecond before clash
    exact
      notClash
        ⟨i, j, _, _, before.ne, List.getElem?_eq_getElem isFirst, List.getElem?_eq_getElem isSecond,
          clash⟩
  · rintro apart ⟨i, j, first, second, different, atFirst, atSecond, clash⟩
    obtain ⟨isFirst, rfl⟩ := List.getElem?_eq_some_iff.mp atFirst
    obtain ⟨isSecond, rfl⟩ := List.getElem?_eq_some_iff.mp atSecond
    rcases Nat.lt_or_gt_of_ne different with before | after
    · exact apart i j isFirst isSecond before clash
    · exact apart j i isSecond isFirst after clash.symm

/-- An entry is ready if it is built, its patterns can be read and the root can be resolved. -/
theorem ready_of_resolve
    {entry : Entry}
    {resolved : FilePath}
    (built : ∃ fragment, entry.build .shipped = .ok fragment)
    (readable : Glob.Filter.fault? (entry.files ++ config.exclude) = none)
    (isResolved : tree.resolve config.root = .ok resolved) :
    config.Ready tree entry := by
  refine ⟨built, ?_⟩
  rw [targets]
  cases found : resolveTargets tree config.root entry.files config.exclude with
  | error fault =>
      rcases resolveTargets_eq_error_iff.mp found with unreadable | ⟨_, cause, unresolved, _⟩
      · rw [readable] at unreadable
        cases unreadable
      · rw [isResolved] at unresolved
        cases unresolved
  | ok paths =>
      rfl

/-- Entries that are ready have a complete plan, or clash. -/
theorem plan_of_ready
    (distinct : tree.Distinct)
    (ready : ∀ entry ∈ config.selected only, config.Ready tree entry) :
    (config.HasClash tree (config.selected only) →
      ∃ error, config.plan tree only = .error (.config error)) ∧
    (¬ config.HasClash tree (config.selected only) →
      ∃ planning,
        config.plan tree only = .ok planning ∧
          planning.IsComplete config tree (config.selected only)) := by
  have starts : Planning.Represents config tree [] ⟨[], []⟩ := ⟨.nil, rfl⟩
  constructor
  · intro hasClash
    have clashes := mt not_hasClash_iff.mpr (not_not_intro hasClash)
    obtain ⟨error, refused⟩ := starts.foldlM_eq_error distinct ready .nil clashes
    rw [plan, refused]
    exact ⟨error, rfl⟩
  · intro notClash
    have apart := not_hasClash_iff.mp notClash
    obtain ⟨planning, folded, represents⟩ := starts.foldlM_eq_ok distinct ready apart
    rw [plan, folded]
    exact ⟨_, rfl, represents.isComplete ready apart⟩

/-- Entries do not clash if the root cannot be resolved, since they have no target files then. -/
theorem not_hasClash_of_unresolved
    {fault : PathFault}
    (unresolved : tree.resolve config.root = .error fault) :
    ¬ config.HasClash tree entries := by
  rintro ⟨_, _, first, _, _, _, _, _, path, isTarget, _⟩
  rw [targets] at isTarget
  cases found : resolveTargets tree config.root first.files config.exclude with
  | error fault =>
      rw [found] at isTarget
      cases isTarget
  | ok paths =>
      obtain ⟨_, _, _, _, _, isResolved, _⟩ := Targets.resolveTargets_eq_ok_iff.mp found
      rw [unresolved] at isResolved
      cases isResolved

/-- If the root cannot be resolved, the first entry of a plan is refused. -/
theorem plan_of_unresolved
    {fault : PathFault}
    (unresolved : tree.resolve config.root = .error fault)
    {entry : Entry}
    {others : List Entry}
    (selected : config.selected only = entry :: others)
    (built : ∃ fragment, entry.build .shipped = .ok fragment)
    (readable : Glob.Filter.fault? (entry.files ++ config.exclude) = none) :
    config.plan tree only = .error (.fault (.path fault)) := by
  obtain ⟨fragment, built⟩ := built
  refine plan_eq_error_iff.mpr ⟨[], entry, others, ⟨[], []⟩, selected, rfl, ?_⟩
  exact
    Planning.addEntry_of_slips (.root fragment fault built readable unresolved)

/-- If the root cannot be resolved, no plan is refused for a conflict of configuration. -/
theorem not_refused_of_unresolved
    {fault : PathFault}
    (unresolved : tree.resolve config.root = .error fault)
    (builds : ∀ entry ∈ config.selected only, ∃ fragment, entry.build .shipped = .ok fragment)
    (readable : ∀ entry ∈ config.selected only,
      Glob.Filter.fault? (entry.files ++ config.exclude) = none)
    (error : ConfigError) :
    config.plan tree only ≠ .error (.config error) := by
  intro refused
  cases selected : config.selected only with
  | nil =>
      rw [plan, selected] at refused
      cases refused
  | cons first others =>
      have isFirst : first ∈ config.selected only := selected ▸ List.mem_cons_self
      have failed :=
        plan_of_unresolved unresolved selected (builds first isFirst) (readable first isFirst)
      rw [refused] at failed
      cases failed

/-- Without a plan, a run fails in the same way and leaves all files as they are. -/
theorem run_of_plan_eq_error
    {error : PlanError}
    (failed : config.plan tree only = .error error)
    (options : RunOptions) :
    config.run options only tree = ⟨tree, .error (.plan error)⟩ := by
  rw [run, failed]

/-- A session leaves all files as they are if there is no plan. -/
theorem tree_runConfig_of_plan_eq_error
    {stage : Cli.Stage}
    {request : Cli.RunRequest}
    {error : PlanError}
    (failed : config.plan stage.surroundings.tree request.only = .error error)
    (command : Cli.Command)
    (mode : RunMode) :
    (stage.runConfig command mode request config).tree = stage.surroundings.tree := by
  have runFails : ∀ options,
      config.run options request.only stage.surroundings.tree =
        ⟨stage.surroundings.tree, .error (.plan error)⟩ :=
    fun options => run_of_plan_eq_error failed options
  have keepsSurroundings : ∀ warning : Cli.Transcript,
      (if config.entries.isEmpty then stage.say warning else stage).surroundings =
        stage.surroundings := by
    intro warning
    split <;> rfl
  rw [Cli.Stage.runConfig]
  dsimp only
  split
  · exact congrArg (·.tree) (keepsSurroundings _)
  · rw [keepsSurroundings, runFails]
    rcases error with (_ | _) | _ | _ <;> exact congrArg (·.tree) (keepsSurroundings _)

/--
If the selected entries can be built and their patterns read, there is no plan for a conflict of
configuration exactly if two of them clash.  Otherwise the plan is complete if the root can be
resolved.  If there is no plan, a run fails in the same way, and a session leaves all files as they
are.
-/
theorem plan_complete
    (distinct : tree.Distinct)
    (builds : ∀ entry ∈ config.selected only, ∃ fragment, entry.build .shipped = .ok fragment)
    (readable : ∀ entry ∈ config.selected only,
      Glob.Filter.fault? (entry.files ++ config.exclude) = none) :
    ((∃ error, config.plan tree only = .error (.config error)) ↔
      config.HasClash tree (config.selected only)) ∧
    (∀ resolved, tree.resolve config.root = .ok resolved →
      ¬ config.HasClash tree (config.selected only) →
      ∃ planning,
        config.plan tree only = .ok planning ∧
          planning.IsComplete config tree (config.selected only)) ∧
    ∀ error, config.plan tree only = .error error →
      (∀ options, config.run options only tree = ⟨tree, .error (.plan error)⟩) ∧
      ∀ (stage : Cli.Stage) (command : Cli.Command) (mode : RunMode) (request : Cli.RunRequest),
        stage.surroundings.tree = tree →
          request.only = only →
          (stage.runConfig command mode request config).tree = tree := by
  have ready : ∀ resolved, tree.resolve config.root = .ok resolved →
      ∀ entry ∈ config.selected only, config.Ready tree entry :=
    fun resolved isResolved entry member =>
      ready_of_resolve (builds entry member) (readable entry member) isResolved
  refine ⟨?_, fun resolved isResolved => ?_, fun error failed => ⟨?_, ?_⟩⟩
  · cases isResolved : tree.resolve config.root with
    | ok resolved =>
        obtain ⟨clashing, complete⟩ := plan_of_ready distinct (ready resolved isResolved)
        refine ⟨?_, clashing⟩
        rintro ⟨error, refused⟩
        by_contra notClash
        obtain ⟨planning, planned, _⟩ := complete notClash
        rw [refused] at planned
        cases planned
    | error fault =>
        refine ⟨?_, fun hasClash => (not_hasClash_of_unresolved isResolved hasClash).elim⟩
        rintro ⟨error, refused⟩
        exact (not_refused_of_unresolved isResolved builds readable error refused).elim
  · exact (plan_of_ready distinct (ready resolved isResolved)).2
  · exact run_of_plan_eq_error failed
  · rintro stage command mode request rfl rfl
    exact tree_runConfig_of_plan_eq_error failed command mode

/-- An entry that puts a block of a tag into every file. -/
def entryFor (tag : Tag) : Entry :=
  ⟨["*"], .inline ⟨tag, .literal "x" .after "", true, .default, .ofText "p", none, ""⟩, []⟩

/-- A configuration with two such entries. -/
def twoEntries (first second : Tag) : Config :=
  ⟨⟨"/", []⟩, [entryFor first, entryFor second], [], [], []⟩

/-- A directory with one file. -/
def oneFile : FileNode :=
  .directory [("x", .file .empty)]

/-- The file is a target of the entries, which are ready to be planned. -/
theorem targets_twoEntries
    (first second tag : Tag) :
    (twoEntries first second).targets oneFile (entryFor tag) = [⟨"/", ["x"]⟩] := by
  have found : resolveTargets oneFile ⟨"/", []⟩ ["*"] [] = .ok [⟨"/", ["x"]⟩] := by
    decide +kernel
  change (resolveTargets oneFile ⟨"/", []⟩ ["*"] []).toOption.getD [] = [⟨"/", ["x"]⟩]
  rw [found]
  rfl

/-- Two entries for one tag, which clash, and two entries for different tags, which do not. -/
theorem plan_complete_twoEntries :
    (∃ error,
      (twoEntries ⟨"a", by decide⟩ ⟨"a", by decide⟩).plan oneFile [] = .error (.config error)) ∧
    ∃ planning,
      (twoEntries ⟨"a", by decide⟩ ⟨"b", by decide⟩).plan oneFile [] = .ok planning ∧
        planning.IsComplete (twoEntries ⟨"a", by decide⟩ ⟨"b", by decide⟩) oneFile
          [entryFor ⟨"a", by decide⟩, entryFor ⟨"b", by decide⟩] := by
  have distinct : oneFile.Distinct :=
    FileNode.distinct_directory (List.nodup_singleton "x")
      (by simpa using FileNode.distinct_file .empty false)
  have patterns : Glob.Filter.fault? ["*"] = none := by
    decide +kernel
  have builds : ∀ first second, ∀ entry ∈ (twoEntries first second).selected [],
      ∃ fragment, entry.build .shipped = .ok fragment := by
    intro first second
    exact List.forall_mem_cons.mpr ⟨⟨_, rfl⟩, List.forall_mem_singleton.mpr ⟨_, rfl⟩⟩
  have readable : ∀ first second, ∀ entry ∈ (twoEntries first second).selected [],
      Glob.Filter.fault? (entry.files ++ (twoEntries first second).exclude) = none := by
    intro first second
    exact List.forall_mem_cons.mpr ⟨patterns, List.forall_mem_singleton.mpr patterns⟩
  constructor
  · refine (plan_complete distinct (builds _ _) (readable _ _)).1.mpr ?_
    refine ⟨0, 1, _, _, by decide, rfl, rfl, ⟨_, _, rfl, rfl, rfl⟩, ⟨"/", ["x"]⟩, ?_, ?_⟩
    · rw [targets_twoEntries]
      exact List.mem_singleton_self _
    · rw [targets_twoEntries]
      exact List.mem_singleton_self _
  · have notClash :
        ¬ (twoEntries ⟨"a", by decide⟩ ⟨"b", by decide⟩).HasClash oneFile
          ((twoEntries ⟨"a", by decide⟩ ⟨"b", by decide⟩).selected []) := by
      rw [not_hasClash_iff]
      refine List.pairwise_pair.mpr ?_
      rintro ⟨⟨_, _, built, otherBuilt, sameTag⟩, _⟩
      cases built
      cases otherBuilt
      revert sameTag
      decide
    have isResolved : oneFile.resolve ⟨"/", []⟩ = .ok ⟨"/", []⟩ := by
      decide +kernel
    exact (plan_complete distinct (builds _ _) (readable _ _)).2.1 _ isResolved notClash

end Config

end BlockSync
