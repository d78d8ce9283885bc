import BlockSync.Cli.Program
import BlockSync.Cli.Transcript
import BlockSync.Cli.Verbosity
import BlockSync.Diff.Preview
import BlockSync.Run.Process

namespace BlockSync.Cli

/-!
# Results of a run

The files of a run with what happened to their blocks, and a summary by outcome. Quiet output names
the failed files alone.
-/

/-- How results are shown. -/
structure ResultsView where
  console : Console
  verbosity : Verbosity
  showsDiffs : Bool
  paintsDiffs : Bool

/-- The sign of an outcome. -/
def outcomeSign : Outcome → String
  | .unchanged => "✅"
  | .wouldChange => "⚠️ "
  | .changed => "✏️ "
  | .error => "❌"

/-- How an outcome stands out. -/
def outcomeEmphasis : Outcome → Emphasis
  | .unchanged => .green
  | .wouldChange => .yellow
  | .changed => .cyan
  | .error => .brightRed

/-- A text filled up with blanks on the right. -/
def padRight (width : Nat) (text : String) : String :=
  text ++ String.ofList (List.replicate (width - text.length) ' ')

namespace ResultsView

/-- The actions of the jobs that changed something. -/
def actionsText (jobs : List JobReport) : String :=
  let actions := (jobs.filter fun job => job.action ≠ .unchanged).map fun job =>
    job.name ++ ": " ++ job.action.text
  if actions.isEmpty then "" else " (" ++ ", ".intercalate actions ++ ")"

/-- The line of a file. -/
def fileLine (view : ResultsView) (path : FilePath) (file : FileReport) : Piece :=
  view.console.print (outcomeSign file.outcome ++ " " ++
    view.console.styled (outcomeEmphasis file.outcome) path.text ++ actionsText file.jobs)

/-- The message of a file, if it has one. -/
def fileMessage (view : ResultsView) (file : FileReport) : Transcript :=
  match file.message with
  | none => []
  | some message =>
      if message.isEmpty then []
      else [view.console.print (view.console.styled .yellow ("   " ++ message))]

/-- The diff of a file, if it is shown. -/
def fileDiff (view : ResultsView) (file : FileReport) : Transcript :=
  match file.diff with
  | none => []
  | some diff =>
      if !view.showsDiffs || diff.isEmpty then []
      else if view.console.colored then
        [view.console.write (Diff.previewText view.paintsDiffs false diff)]
      else
        [view.console.write diff]

/-- Whether a file is named. -/
def names (view : ResultsView) (file : FileReport) : Bool :=
  if view.verbosity < 0 then file.outcome = .error
  else file.outcome ≠ .unchanged || 2 ≤ view.verbosity

/-- What is shown of a file under its path from the root. -/
def fileText (view : ResultsView) (path : FilePath) (file : FileReport) : Transcript :=
  if view.verbosity < 0 then
    [view.console.error (path.text ++ ": " ++ file.message.getD "")]
  else
    view.fileLine path file :: (view.fileMessage file ++ view.fileDiff file)

/-- What is shown of some files, up to the first whose path cannot be shown. -/
def filesText
    (view : ResultsView)
    (tree : FileNode)
    (root : FilePath) :
    List FileReport → Transcript × Option PathFault
  | [] => ([], none)
  | file :: others =>
      if view.names file then
        match tree.relativePath file.path root with
        | .error fault => ([], some fault)
        | .ok path =>
            let (shown, fault) := view.filesText tree root others
            (view.fileText path file ++ shown, fault)
      else
        view.filesText tree root others

/-- The line that counts an outcome, if there is anything to count. -/
def countLine (view : ResultsView) (report : RunReport) (outcome : Outcome) : Option Piece :=
  let count := report.count outcome
  if count = 0 then none
  else
    some (view.console.print (view.console.styled (outcomeEmphasis outcome)
      ("  " ++ padRight 13 outcome.text ++ ": " ++ toString count)))

/-- The summary of a run. -/
def summary (view : ResultsView) (report : RunReport) : Transcript :=
  let nothing :=
    if report.files.isEmpty then [view.console.print "  no files matched"] else []
  [view.console.print "", view.console.print (view.console.styled .heading "Summary by outcome:")]
    ++ nothing ++ Outcome.outcomes.filterMap (view.countLine report)

/-- The warnings about entries without files. -/
def unmatchedText (view : ResultsView) (report : RunReport) : Transcript :=
  report.unmatched.map fun label =>
    view.console.warn ("Fragment '" ++ label ++ "' matched no files.")

/-- What is shown of a run, up to the first file whose path cannot be shown. -/
def text
    (view : ResultsView)
    (tree : FileNode)
    (root : FilePath)
    (command : String)
    (report : RunReport) :
    Transcript × Option PathFault :=
  let warnings := view.unmatchedText report
  let (files, fault) := view.filesText tree root report.files
  if view.verbosity < 0 then
    (warnings ++ files, fault)
  else
    let title := view.console.print
      (view.console.styled .heading (programTitle ++ " " ++ command ++ " results:"))
    let ending := if fault.isSome then [] else view.summary report
    (warnings ++ title :: files ++ ending, fault)

end ResultsView

end BlockSync.Cli
