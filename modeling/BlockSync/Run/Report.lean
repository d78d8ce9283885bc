import BlockSync.FileTree.Path
import BlockSync.Merge

namespace BlockSync

/-!
# Reports

What a run did, or would do: for every file its outcome, and for every job in it the action.
-/

/-- What happened to a block. -/
inductive Action where
  | inserted
  | updated
  | removed
  | unchanged
  | failed
  deriving Repr, DecidableEq

/-- What happened to a file. -/
inductive Outcome where
  | unchanged
  | wouldChange
  | changed
  | error
  deriving Repr, DecidableEq

/-- The report on a job. -/
structure JobReport where
  name : String
  tag : String
  action : Action
  message : Option String
  deriving Repr, DecidableEq

/-- The report on a file, with a diff where one was asked for and the file changes. -/
structure FileReport where
  path : FilePath
  outcome : Outcome
  jobs : List JobReport
  diff : Option String
  message : Option String
  deriving Repr, DecidableEq

/-- The report on a run, with the labels of the entries whose patterns match no file. -/
structure RunReport where
  files : List FileReport
  unmatched : List String
  deriving Repr, DecidableEq

namespace Action

/-- The word for an action. -/
def text : Action → String
  | inserted => "inserted"
  | updated => "updated"
  | removed => "removed"
  | unchanged => "unchanged"
  | failed => "failed"

/-- The action behind the outcome of a merge. -/
def ofMerge (result : MergeResult) : Action :=
  if result.merged then
    if result.cleared then updated else inserted
  else if result.cleared then removed
  else unchanged

end Action

namespace Outcome

/-- All outcomes. -/
def outcomes : List Outcome := [unchanged, wouldChange, changed, error]

/-- The word for an outcome. -/
def text : Outcome → String
  | unchanged => "unchanged"
  | wouldChange => "would_change"
  | changed => "changed"
  | error => "error"

end Outcome

namespace RunReport

/-- The number of files with an outcome. -/
def count (report : RunReport) (outcome : Outcome) : Nat :=
  report.files.countP fun file => file.outcome = outcome

/-- Whether any file failed. -/
def hadErrors (report : RunReport) : Bool := report.files.any fun file => file.outcome = .error

/-- The number of files that were written. -/
def written (report : RunReport) : Nat := report.count .changed

end RunReport

end BlockSync
