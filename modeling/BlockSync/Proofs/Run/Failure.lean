import BlockSync.Proofs.Config.Sources
import BlockSync.Proofs.Glob.Filter
import BlockSync.Proofs.Run.Plan
import BlockSync.Proofs.Run.Process

namespace BlockSync

/-!
# How a run fails

A run fails as its plan does.  That a fragment is unknown or that two fragments share a tag is
foreseen.  An accepted configuration can slip otherwise: its entries are not checked for empty
names and unreadable patterns.  Once there is a plan, what goes wrong is reported, but for values
that have no text or that bring a surrogate into a payload: this escapes and ends the run.
-/

/-- A failure that a plan announces: an unknown fragment, or a refused configuration. -/
inductive PlanError.IsForeseen : PlanError → Prop where
  | unknown (name : String) (known : List String) :
      IsForeseen (.build (.registry (.unknown name known)))
  | config (error : ConfigError) :
      IsForeseen (.config error)

/-- How an entry of a configuration fails in a way that is not foreseen. -/
inductive Entry.Slips (tree : FileNode) (config : Config) (entry : Entry) : PlanError → Prop where
  | unnamed
      (isUnnamed : entry.fragment = .registered "") :
      Slips tree config entry (.build .nothingNamed)
  | pattern
      (fragment : Fragment)
      (fault : Fault)
      (built : entry.build .shipped = .ok fragment)
      (unreadable : Glob.Filter.fault? (entry.files ++ config.exclude) = some fault) :
      Slips tree config entry (.fault fault)
  | root
      (fragment : Fragment)
      (fault : PathFault)
      (built : entry.build .shipped = .ok fragment)
      (readable : Glob.Filter.fault? (entry.files ++ config.exclude) = none)
      (unresolved : tree.resolve config.root = .error fault) :
      Slips tree config entry (.fault (.path fault))

variable {tree : FileNode} {config : Config} {entry : Entry} {error : PlanError}

/-- An entry whose fragment is not built has no name for it, or an unknown one. -/
theorem Entry.build_shipped_eq_error
    {error : BuildError}
    (failed : entry.build .shipped = .error error) :
    entry.fragment = .registered "" ∧ error = .nothingNamed ∨
      ∃ name known, error = .registry (.unknown name known) := by
  cases isFragment : entry.fragment with
  | inline description =>
      rw [build_of_inline isFragment] at failed
      cases failed
  | registered name =>
      rw [build_of_registered isFragment] at failed
      split at failed
      · next isEmpty =>
        cases failed
        rw [String.isEmpty_iff.mp isEmpty]
        exact .inl ⟨rfl, rfl⟩
      · obtain ⟨cause, unknown, rfl⟩ := Except.mapError_eq_error_iff.mp failed
        rw [Registry.get] at unknown
        split at unknown
        · cases unknown
        · cases unknown
          exact .inr ⟨_, _, rfl⟩

namespace Planning

variable {planning : Planning}

/-- An entry whose files cannot be told is not planned. -/
theorem addEntry_of_resolveTargets
    {fragment : Fragment}
    {fault : Fault}
    (built : entry.build .shipped = .ok fragment)
    (refused : resolveTargets tree config.root entry.files config.exclude = .error fault) :
    planning.addEntry tree config entry = .error (.fault fault) := by
  rw [addEntry, built, refused]
  rfl

/-- An entry that slips is not planned. -/
theorem addEntry_of_slips
    (slips : entry.Slips tree config error) :
    planning.addEntry tree config entry = .error error := by
  cases slips with
  | unnamed isUnnamed =>
      rw [addEntry, Entry.build_of_registered isUnnamed]
      rfl
  | pattern fragment fault built unreadable =>
      exact addEntry_of_resolveTargets built (resolveTargets_eq_error_iff.mpr (.inl unreadable))
  | root fragment fault built readable unresolved =>
      exact
        addEntry_of_resolveTargets built
          (resolveTargets_eq_error_iff.mpr (.inr ⟨readable, fault, unresolved, rfl⟩))

/-- An entry that is not planned fails in a way that is foreseen or slips. -/
theorem isForeseen_or_slips_of_addEntry
    (failed : planning.addEntry tree config entry = .error error) :
    error.IsForeseen ∨ entry.Slips tree config error := by
  rcases Except.bind_eq_error_iff.mp failed with unbuilt | ⟨fragment, built, failed⟩
  · obtain ⟨cause, unnamed, rfl⟩ := Except.mapError_eq_error_iff.mp unbuilt
    rcases Entry.build_shipped_eq_error unnamed with ⟨isUnnamed, rfl⟩ | ⟨name, known, rfl⟩
    · exact .inr (.unnamed isUnnamed)
    · exact .inl (.unknown name known)
  · rw [Except.mapError_eq_ok_iff] at built
    rcases Except.bind_eq_error_iff.mp failed with refused | ⟨targets, _, failed⟩
    · obtain ⟨fault, unresolved, rfl⟩ := Except.mapError_eq_error_iff.mp refused
      rcases resolveTargets_eq_error_iff.mp unresolved with
        unreadable | ⟨readable, cause, isCause, rfl⟩
      · exact .inr (.pattern fragment fault built unreadable)
      · exact .inr (.root fragment cause built readable isCause)
    · split at failed
      · cases failed
      · rcases Except.bind_eq_error_iff.mp failed with unadded | ⟨_, _, failed⟩
        · obtain ⟨_, _, _, _, _, _, unadded⟩ := Except.foldlM_eq_error_iff.mp unadded
          obtain ⟨cause, _, rfl⟩ := Except.mapError_eq_error_iff.mp unadded
          exact .inl (.config cause)
        · cases failed

end Planning

/-- To slip is not foreseen. -/
theorem Entry.Slips.not_isForeseen
    (slips : entry.Slips tree config error) :
    ¬ error.IsForeseen := by
  intro isForeseen
  cases isForeseen <;> cases slips

/-- There is no plan exactly if an entry cannot be added after those before it. -/
theorem Config.plan_eq_error_iff
    {only : List String} :
    config.plan tree only = .error error ↔
      ∃ before entry after planning,
        config.selected only = before ++ entry :: after ∧
          before.foldlM (Planning.addEntry tree config) ⟨[], []⟩ = .ok planning ∧
          planning.addEntry tree config entry = .error error := by
  rw [plan, Except.bind_eq_error_iff, ← Except.foldlM_eq_error_iff]
  constructor
  · rintro (failed | ⟨_, _, failed⟩)
    · exact failed
    · cases failed
  · exact .inl

/-- A plan fails in a way that is not foreseen exactly if an entry slips that it comes to. -/
theorem Config.plan_not_isForeseen_iff
    {only : List String} :
    config.plan tree only = .error error ∧ ¬ error.IsForeseen ↔
      ∃ before entry after planning,
        config.selected only = before ++ entry :: after ∧
          before.foldlM (Planning.addEntry tree config) ⟨[], []⟩ = .ok planning ∧
          entry.Slips tree config error := by
  rw [plan_eq_error_iff]
  constructor
  · rintro ⟨⟨before, entry, after, planning, selected, planned, failed⟩, unforeseen⟩
    rcases Planning.isForeseen_or_slips_of_addEntry failed with isForeseen | slips
    · exact (unforeseen isForeseen).elim
    · exact ⟨before, entry, after, planning, selected, planned, slips⟩
  · rintro ⟨before, entry, after, planning, selected, planned, slips⟩
    exact
      ⟨⟨before, entry, after, planning, selected, planned, Planning.addEntry_of_slips slips⟩,
        slips.not_isForeseen⟩

namespace Plan

variable {holds : Job → Prop} {plan later : Plan} {job : Job} {path : FilePath}

/-- Whether something holds of all jobs. -/
def Every (holds : Job → Prop) (plan : Plan) : Prop :=
  ∀ planned ∈ plan, ∀ job ∈ planned.2, holds job

/-- A job comes after the jobs of its file. -/
theorem eq_append_of_addToFile
    {jobs later : List Job}
    (added : addToFile path job jobs = .ok later) :
    later = jobs ++ [job] := by
  rw [addToFile] at added
  split at added
  · cases added
  · cases added
    rfl

/-- What holds of all jobs still does if it holds of one that is added. -/
theorem Every.addJob
    (every : plan.Every holds)
    (also : holds job)
    (added : Plan.addJob job path plan = .ok later) :
    later.Every holds := by
  induction plan generalizing later with
  | nil =>
      obtain ⟨jobs, inFile, same⟩ := Except.bind_eq_ok_iff.mp added
      cases same
      cases eq_append_of_addToFile inFile
      simpa [Every] using also
  | cons item others inductionHypothesis =>
      obtain ⟨other, jobs⟩ := item
      obtain ⟨first, rest⟩ := List.forall_mem_cons.mp every
      rw [Plan.addJob] at added
      split at added
      · obtain ⟨_, inFile, same⟩ := Except.bind_eq_ok_iff.mp added
        cases same
        cases eq_append_of_addToFile inFile
        refine List.forall_mem_cons.mpr ⟨fun job member => ?_, rest⟩
        rcases List.mem_append.mp member with isOld | isNew
        · exact first job isOld
        · exact List.mem_singleton.mp isNew ▸ also
      · obtain ⟨_, addedLater, same⟩ := Except.bind_eq_ok_iff.mp added
        cases same
        exact List.forall_mem_cons.mpr ⟨first, inductionHypothesis rest addedLater⟩

end Plan

namespace Config

variable {only : List String}

/-- The jobs of a plan are those of its configuration. -/
theorem every_plan
    {planning : Planning}
    (planned : config.plan tree only = .ok planning) :
    planning.plan.Every (Job.IsOf config) := by
  have starts : Plan.Every (Job.IsOf config) [] := List.forall_mem_nil _
  obtain ⟨unsorted, every, sorted⟩ :=
    plan_invariant starts (fun _ _ _ _ before isOf added => before.addJob isOf added) planned
  rw [sorted]
  exact fun item member => every item (List.mem_mergeSort.mp member)

/-- What goes wrong with a job of an accepted entry is reported, or comes of its values. -/
theorem isReported_or_isOfValues_of_run
    {job : Job}
    {mode : RunMode}
    {shared : Table}
    {text : String}
    {error : FragmentError}
    (isOf : job.IsOf config)
    (accepted : job.entry.IsAccepted)
    (failed : job.run mode shared text = .error error) :
    error.IsReported ∨ mode = .sync ∧ error.IsOfValues := by
  obtain ⟨template, sturdy⟩ := accepted.exists_sturdy isOf.built
  cases mode with
  | sync =>
      rcases Except.bind_eq_error_iff.mp failed with unvalued | ⟨values, _, unsynced⟩
      · cases Fragment.textsOf_eq_error unvalued
        exact .inr ⟨rfl, .tooManyDigits⟩
      · rcases sturdy.isReported_or_unencodable_of_sync unsynced with
          isReported | ⟨cause, rfl⟩
        · exact .inl isReported
        · exact .inr ⟨rfl, .unencodable cause⟩
  | strip =>
      obtain ⟨result, removed⟩ := sturdy.exists_remove text
      rw [Job.run, removed] at failed
      cases failed

/-- What escapes from a plan of accepted entries comes of the values of a job. -/
theorem isOfValues_of_escapes
    {options : RunOptions}
    {planning : Planning}
    {error : FragmentError}
    (accepted : ∀ entry ∈ config.entries, entry.IsAccepted)
    (planned : config.plan tree only = .ok planning)
    (escapes : planning.plan.Escapes config options tree error) :
    options.mode = .sync ∧ error.IsOfValues := by
  obtain ⟨before, item, after, _, split, _, escapes⟩ := escapes
  obtain ⟨text, failed, unexpected⟩ := exists_foldAll_of_escape? escapes
  rw [Job.foldAll_eq] at failed
  obtain ⟨job, isJob, _, failedThere⟩ := Job.exists_run_of_runAll failed
  have isPlanned : item ∈ planning.plan := by
    rw [split]
    exact List.mem_append_right _ List.mem_cons_self
  have isOf := every_plan planned item isPlanned job isJob
  rcases isReported_or_isOfValues_of_run isOf (accepted job.entry isOf.isEntry) failedThere with
    isReported | ofValues
  · rw [isReported.isExpected] at unexpected
    cases unexpected
  · exact ofValues

/--
For accepted sources, a plan fails in a way that is not foreseen exactly if it comes to an entry
that slips.  A run fails exactly as its plan does, or with what escapes from a file of the plan,
which comes of the values of a job that is brought up to date.  All else that goes wrong with a job
is reported.
-/
theorem failures_of_ofSources
    {root : FilePath}
    {sources : List (Table × Option FilePath)}
    (accepted : ofSources root sources = .ok config)
    (tree : FileNode)
    (only : List String) :
    (∀ error,
      config.plan tree only = .error error ∧ ¬ error.IsForeseen ↔
        ∃ before entry after planning,
          config.selected only = before ++ entry :: after ∧
            before.foldlM (Planning.addEntry tree config) ⟨[], []⟩ = .ok planning ∧
            entry.Slips tree config error) ∧
      (∀ options error,
        (config.run options only tree).result = .error error ↔
          (∃ cause, error = .plan cause ∧ config.plan tree only = .error cause) ∨
            ∃ cause planning,
              error = .job cause ∧
                config.plan tree only = .ok planning ∧
                planning.plan.Escapes config options tree cause) ∧
      ∀ planning,
        config.plan tree only = .ok planning →
          (∀ options cause,
            planning.plan.Escapes config options tree cause →
              options.mode = .sync ∧ cause.IsOfValues) ∧
            ∀ planned ∈ planning.plan, ∀ job ∈ planned.2, ∀ mode text error,
              job.run mode config.values text = .error error →
                error.IsReported ∨ mode = .sync ∧ error.IsOfValues := by
  have entriesAccepted := isAccepted_of_ofSources accepted
  refine ⟨fun _ => plan_not_isForeseen_iff, fun _ _ => run_eq_error_iff, ?_⟩
  intro planning isPlan
  refine ⟨fun _ _ => isOfValues_of_escapes entriesAccepted isPlan, ?_⟩
  intro planned isPlanned job isJob mode text error failed
  have isOf := every_plan isPlan planned isPlanned job isJob
  exact isReported_or_isOfValues_of_run isOf (entriesAccepted job.entry isOf.isEntry) failed

/-- A source with one entry for the shipped fragment of a name. -/
def singleSource (name files : String) : Table :=
  [("fragments", .list [.table [("use", .string name), ("files", .string files)]])]

/-- A configuration can be tried by evaluating it. -/
theorem exists_ofSources_of_error?
    {root : FilePath}
    {sources : List (Table × Option FilePath)}
    (failed :
      ((ofSources root sources).toOption.bind fun config => (config.plan tree []).error?) =
        some error) :
    ∃ config, ofSources root sources = .ok config ∧ config.plan tree [] = .error error := by
  obtain ⟨config, accepted, failed⟩ := Option.bind_eq_some_iff.mp failed
  exact
    ⟨config, Except.toOption_eq_some_iff.mp accepted, Except.error?_eq_some_iff.mp failed⟩

/-- An entry with an empty name is accepted, and there is no plan for it. -/
theorem exists_unnamed :
    ∃ config,
      ofSources ⟨"/", []⟩ [(singleSource "" "a.txt", none)] = .ok config ∧
        config.plan (.directory []) [] = .error (.build .nothingNamed) :=
  exists_ofSources_of_error? (by decide +kernel)

/-- A pattern that ends in the middle of an escape is accepted, and there is no plan for it. -/
theorem exists_unreadable :
    ∃ config,
      ofSources ⟨"/", []⟩ [(singleSource "google-maps-gradle" "a\\", none)] = .ok config ∧
        config.plan (.directory []) [] = .error (.fault (.glob "a\\")) :=
  exists_ofSources_of_error? (by decide +kernel)

/-- A run for an entry with an empty name fails. -/
theorem failures_of_ofSources_unnamed :
    ∃ config,
      ofSources ⟨"/", []⟩ [(singleSource "" "a.txt", none)] = .ok config ∧
        ∀ options,
          (config.run options [] (.directory [])).result =
            .error (.plan (.build .nothingNamed)) := by
  obtain ⟨config, accepted, failed⟩ := exists_unnamed
  exact
    ⟨config, accepted,
      fun options =>
        ((failures_of_ofSources accepted (.directory []) []).2.1 options _).mpr
          (.inl ⟨_, rfl, failed⟩)⟩

/--
Two configurations that are accepted and fail in a way that is not foreseen: an entry whose name is
empty, and one with a pattern that ends in the middle of an escape.
-/
theorem failures_not_foreseen :
    ∃ unnamed unreadable : Config,
      (ofSources ⟨"/", []⟩ [(singleSource "" "a.txt", none)] = .ok unnamed ∧
          unnamed.plan (.directory []) [] = .error (.build .nothingNamed) ∧
          ¬ (PlanError.build .nothingNamed).IsForeseen) ∧
        ofSources ⟨"/", []⟩ [(singleSource "google-maps-gradle" "a\\", none)] = .ok unreadable ∧
          unreadable.plan (.directory []) [] = .error (.fault (.glob "a\\")) ∧
          ¬ (PlanError.fault (.glob "a\\")).IsForeseen := by
  obtain ⟨unnamed, accepted, failed⟩ := exists_unnamed
  obtain ⟨unreadable, alsoAccepted, alsoFailed⟩ := exists_unreadable
  exact
    ⟨unnamed, unreadable, ⟨accepted, failed, fun isForeseen => nomatch isForeseen⟩, alsoAccepted,
      alsoFailed, fun isForeseen => nomatch isForeseen⟩

end Config

end BlockSync
