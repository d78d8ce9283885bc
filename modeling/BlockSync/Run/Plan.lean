import BlockSync.Config.Basic
import BlockSync.Targets

namespace BlockSync

/-!
# Plans

A plan lists the files that a configuration touches, in the order of their paths, each with its
jobs in the order of the configuration. Two jobs of one file cannot share a tag.
-/

/-- An entry with its fragment, to be carried out in a file. -/
structure Job where
  entry : Entry
  fragment : Fragment

/-- Files with their jobs. -/
abbrev Plan := List (FilePath × List Job)

/-- A plan, and the entries whose patterns match no file. -/
structure Planning where
  plan : Plan
  unmatched : List Entry

/-- Why there is no plan. -/
inductive PlanError where
  | build (error : BuildError)
  | config (error : ConfigError)
  | fault (fault : Fault)
  deriving Repr, DecidableEq

namespace Job

/-- The name of a job in messages. -/
def label (job : Job) : String := job.entry.label

/-- The tag of the block that a job is about. -/
def tag (job : Job) : String := job.fragment.tag

end Job

namespace Plan

/-- Adds a job to the jobs of a file, unless one of them has the same tag. -/
def addToFile (path : FilePath) (job : Job) (jobs : List Job) : Except ConfigError (List Job) :=
  match jobs.find? fun other => other.tag = job.tag with
  | some other => .error ⟨.sharedTag path.text other.label job.label job.tag, none⟩
  | none => .ok (jobs ++ [job])

/-- Adds a job for a file. -/
def addJob (job : Job) (path : FilePath) : Plan → Except ConfigError Plan
  | [] => return [(path, ← addToFile path job [])]
  | (other, jobs) :: rest =>
      if other = path then return (other, ← addToFile path job jobs) :: rest
      else return (other, jobs) :: (← addJob job path rest)

/-- A plan in the order of its paths. -/
def sorted (plan : Plan) : Plan :=
  plan.mergeSort fun a b => FilePath.precedes a.1 b.1

end Plan

namespace Planning

/-- Adds the jobs of an entry, one for each of its files. -/
def addEntry
    (tree : FileNode)
    (config : Config)
    (planning : Planning)
    (entry : Entry) :
    Except PlanError Planning := do
  let fragment ← (entry.build .shipped).mapError .build
  let targets ← (resolveTargets tree config.root entry.files config.exclude).mapError .fault
  if targets.isEmpty then
    return { planning with unmatched := planning.unmatched ++ [entry] }
  else
    let plan ← targets.foldlM
      (fun (plan : Plan) path => (plan.addJob ⟨entry, fragment⟩ path).mapError PlanError.config)
      planning.plan
    return { planning with plan := plan }

end Planning

namespace Config

/-- The entries with the given labels, or all of them if no labels are given. -/
def selected (config : Config) (only : List String) : List Entry :=
  if only.isEmpty then config.entries
  else config.entries.filter fun entry => only.contains entry.label

/-- The plan of a configuration, for the entries with the given labels. -/
def plan (config : Config) (tree : FileNode) (only : List String) : Except PlanError Planning := do
  let planning ← (config.selected only).foldlM (Planning.addEntry tree config) ⟨[], []⟩
  return { planning with plan := planning.plan.sorted }

end Config

end BlockSync
