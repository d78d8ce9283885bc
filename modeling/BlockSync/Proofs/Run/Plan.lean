import BlockSync.Proofs.Except
import BlockSync.Proofs.FileTree.Outline
import BlockSync.Run.Plan
import Mathlib.Data.List.Nodup

namespace BlockSync

/-!
# Plans and outlines

A plan depends on which files there are and not on what is in them, so the plan of a run is still
the plan once the run has written its files.  It has one place for the jobs of each path.
-/

namespace Targets

section Walk

variable (included excluded : List Char → Bool) (directory : List String → Bool)

mutual

/-- The wanted files of a node are those of its outline. -/
theorem below_outline
    (names : List String) :
    (node : FileNode) →
      below included excluded directory names node.outline =
        below included excluded directory names node
  | .file .. => rfl
  | .link _ => rfl
  | .directory entries => by
      rw [FileNode.outline, below, below, among_outlineAmong names entries]

/-- The wanted files below entries are those below their outlines. -/
theorem among_outlineAmong
    (names : List String) :
    (entries : List (String × FileNode)) →
      among included excluded directory names (FileNode.outlineAmong entries) =
        among included excluded directory names entries
  | [] => rfl
  | (name, node) :: others => by
      rw [FileNode.outlineAmong, among, among, below_outline (name :: names) node,
        among_outlineAmong names others]

end

end Walk

/-- The files that are found in a tree are those found in its outline. -/
theorem find_outline
    (tree : FileNode)
    (root : FilePath)
    (included excluded : List Char → Bool) :
    find tree.outline root included excluded = find tree root included excluded := by
  rw [find, find, FileNode.at?_outline]
  cases tree.at? root.names with
  | none =>
      rfl
  | some node =>
      cases node with
      | file content isLocked =>
          rfl
      | link target =>
          rfl
      | directory entries =>
          simp only [Option.map_some, FileNode.outline, FileNode.isDirectory_outline,
            among_outlineAmong]

end Targets

/-- The target files of patterns are the same in the outline. -/
theorem resolveTargets_outline
    (tree : FileNode)
    (root : FilePath)
    (patterns exclude : List String) :
    resolveTargets tree.outline root patterns exclude =
      resolveTargets tree root patterns exclude := by
  simp only [resolveTargets, FileNode.resolve_outline, Targets.find_outline]

/-- The jobs of an entry are the same in the outline. -/
theorem Planning.addEntry_outline
    (tree : FileNode)
    (config : Config) :
    Planning.addEntry tree.outline config = Planning.addEntry tree config := by
  funext planning entry
  simp only [Planning.addEntry, resolveTargets_outline]

/-- The plan of a configuration is the same in the outline. -/
theorem Config.plan_outline
    (config : Config)
    (tree : FileNode)
    (only : List String) :
    config.plan tree.outline only = config.plan tree only := by
  rw [Config.plan, Config.plan, Planning.addEntry_outline]

/-- Trees with the same outline have the same plan. -/
theorem Config.plan_congr
    {first second : FileNode}
    (same : first.outline = second.outline)
    (config : Config)
    (only : List String) :
    config.plan first only = config.plan second only := by
  rw [← config.plan_outline first, same, config.plan_outline]

namespace Plan

variable {plan later : Plan} {job : Job} {path : FilePath}

/-- A job is added to the jobs of its path, which is planned from then on. -/
theorem map_fst_addJob
    (added : addJob job path plan = .ok later) :
    later.map (·.1) =
      if path ∈ plan.map (·.1) then plan.map (·.1) else plan.map (·.1) ++ [path] := by
  induction plan generalizing later with
  | nil =>
      obtain ⟨jobs, _, same⟩ := Except.bind_eq_ok_iff.mp added
      cases same
      rfl
  | cons item others inductionHypothesis =>
      obtain ⟨other, jobs⟩ := item
      rw [addJob] at added
      by_cases same : other = path
      · rw [if_pos same] at added
        obtain ⟨_, _, isLater⟩ := Except.bind_eq_ok_iff.mp added
        cases isLater
        simp [same]
      · rw [if_neg same] at added
        obtain ⟨rest, addedLater, isLater⟩ := Except.bind_eq_ok_iff.mp added
        cases isLater
        rw [List.map_cons, inductionHypothesis addedLater, List.map_cons]
        by_cases planned : path ∈ others.map (·.1)
        · rw [if_pos planned, if_pos (List.mem_cons_of_mem other planned)]
        · have unplanned : path ∉ other :: others.map (·.1) := by
            rw [List.mem_cons, not_or]
            exact ⟨Ne.symm same, planned⟩
          rw [if_neg planned, if_neg unplanned, List.cons_append]

/-- Whether no path is planned twice. -/
def Distinct (plan : Plan) : Prop :=
  (plan.map (·.1)).Nodup

/-- No path is planned twice when a job is added. -/
theorem Distinct.addJob
    (distinct : plan.Distinct)
    (added : Plan.addJob job path plan = .ok later) :
    later.Distinct := by
  rw [Distinct, map_fst_addJob added]
  split
  · exact distinct
  · next absent =>
    rw [← List.concat_eq_append]
    exact List.Nodup.concat absent distinct

end Plan

/-- A job of an entry in a configuration, with the fragment that is built for it. -/
structure Job.IsOf (config : Config) (job : Job) : Prop where
  isEntry :
    job.entry ∈ config.entries
  built :
    job.entry.build .shipped = .ok job.fragment

section Invariant

variable {tree : FileNode} {config : Config} {holds : Plan → Prop}

/-- What each job of a configuration preserves, the jobs of an entry preserve. -/
theorem Planning.addEntry_invariant
    (preserved : ∀ plan job path later,
      holds plan → job.IsOf config → Plan.addJob job path plan = .ok later → holds later)
    {planning later : Planning}
    {entry : Entry}
    (isEntry : entry ∈ config.entries)
    (before : holds planning.plan)
    (added : planning.addEntry tree config entry = .ok later) :
    holds later.plan := by
  obtain ⟨fragment, built, added⟩ := Except.bind_eq_ok_iff.mp added
  obtain ⟨targets, _, added⟩ := Except.bind_eq_ok_iff.mp added
  rw [Except.mapError_eq_ok_iff] at built
  split at added
  · cases added
    exact before
  · obtain ⟨plan, folded, same⟩ := Except.bind_eq_ok_iff.mp added
    cases same
    have preservedAtPath : ∀ plan path later,
        holds plan →
          (plan.addJob ⟨entry, fragment⟩ path).mapError PlanError.config = .ok later →
          holds later :=
      fun plan path later before stepped =>
        preserved plan _ path later before ⟨isEntry, built⟩ (Except.mapError_eq_ok_iff.mp stepped)
    exact Except.foldlM_invariant preservedAtPath before folded

/-- Entries are selected from those of the configuration. -/
theorem Config.mem_entries_of_mem_selected
    {only : List String}
    {entry : Entry}
    (member : entry ∈ config.selected only) :
    entry ∈ config.entries := by
  rw [selected] at member
  split at member
  · exact member
  · exact List.mem_of_mem_filter member

/-- A plan, before it is sorted, has what the empty one has and each job preserves. -/
theorem Config.plan_invariant
    (starts : holds [])
    (preserved : ∀ plan job path later,
      holds plan → job.IsOf config → Plan.addJob job path plan = .ok later → holds later)
    {only : List String}
    {planning : Planning}
    (planned : config.plan tree only = .ok planning) :
    ∃ unsorted, holds unsorted ∧ planning.plan = Plan.sorted unsorted := by
  obtain ⟨unsorted, folded, same⟩ := Except.bind_eq_ok_iff.mp planned
  cases same
  have preservedByEntry : ∀ (planning : Planning), ∀ entry ∈ config.selected only, ∀ later,
      holds planning.plan → planning.addEntry tree config entry = .ok later → holds later.plan :=
    fun _ _ member _ => Planning.addEntry_invariant preserved (mem_entries_of_mem_selected member)
  have holdsAtEnd : holds unsorted.plan :=
    Except.foldlM_invariant_of_mem preservedByEntry starts folded
  exact ⟨unsorted.plan, holdsAtEnd, rfl⟩

end Invariant

/-- No path is planned twice. -/
theorem Config.distinct_plan
    {config : Config}
    {tree : FileNode}
    {only : List String}
    {planning : Planning}
    (planned : config.plan tree only = .ok planning) :
    planning.plan.Distinct := by
  have starts : Plan.Distinct [] := List.nodup_nil
  obtain ⟨unsorted, distinct, sorted⟩ :=
    plan_invariant starts (fun _ _ _ _ before _ added => before.addJob added) planned
  rw [sorted]
  exact ((List.mergeSort_perm _ _).map _).nodup_iff.mpr distinct

end BlockSync
