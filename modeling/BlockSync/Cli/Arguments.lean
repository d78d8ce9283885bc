import BlockSync.Cli.Scan
import BlockSync.Cli.Verbosity
import BlockSync.FileTree.Resolve

namespace BlockSync.Cli

/-!
# Arguments

What a scanned command line asks for. Operands are checked option by option, in the order in which
the options were first given, and the first refused one counts. Paths need not exist, but an
existing one must be of the right kind.
-/

/-- Where a command line is read: the files that there are, and the directory it starts from. -/
structure Place where
  tree : FileNode
  directory : FilePath

namespace Place

/--
The kind of node that a path as written leads to; a slash at its end leads to directories only.
-/
def nodeAt? (place : Place) (text : String) : Option FileNode :=
  let demandsDirectory := text.endsWith "/" || text.endsWith "/."
  if text.isEmpty then none
  else
    match place.tree.locate (place.directory.join (FilePath.parse text)) with
    | .ok (_, .directory entries) => some (.directory entries)
    | .ok (_, node) => if demandsDirectory then none else some node
    | .error _ => none

/-- Why an operand is refused, if it is. A path with a null character cannot be looked up. -/
def fault? (place : Place) (text : String) :
    Operand → Except PathFault (Option OperandFault)
  | .text _ => .ok none
  | .choice words => .ok (if words.contains text then none else some (.notAmong words))
  | .directory =>
      if FilePath.endsEarly text then .error .nullCharacter
      else
        match place.nodeAt? text with
        | some (.file ..) => .ok (some .isFile)
        | _ => .ok none
  | .file =>
      if FilePath.endsEarly text then .error .nullCharacter
      else
        match place.nodeAt? text with
        | some (.directory _) => .ok (some .isDirectory)
        | _ => .ok none

/-- The first refused operand of an option, if there is one. -/
def refused? (place : Place) (scan : Scan) (switch : Switch) :
    Except PathFault (Option UsageError) :=
  match switch.operand? with
  | none => .ok none
  | some operand =>
      (scan.operands switch).findSomeM? fun text => do
        return (← place.fault? text operand).map (.operandRefused switch.name text)

end Place

/-- The options and the words of a scope, or what it answers instead. -/
inductive Reading where
  | help
  | refused (error : UsageError)
  | stuck (fault : PathFault)
  | scanned (scan : Scan)
  deriving Repr, DecidableEq

/--
Reads the words that follow a scope. A wish for help wins over operands and words that are
refused. A command takes no words besides its options; the program takes those of its command.
-/
def Reading.of (place : Place) (scope : Scope) (line : List String) : Reading :=
  match Scan.ofLine scope.switches (scope ≠ .program) line with
  | .error error => .refused error
  | .ok scan =>
      if scan.has .help then .help
      else
        match scan.switches.findSomeM? (place.refused? scan) with
        | .error fault => .stuck fault
        | .ok (some error) => .refused error
        | .ok none =>
            if scope ≠ .program ∧ scan.words ≠ [] then .refused (.wordsUnexpected scan.words)
            else .scanned scan

/-- The wish for colours in a command line. -/
def Scan.colorMode (scan : Scan) : ColorMode :=
  if scan.has .noColor then .never
  else ((scan.operand? .color).bind ColorMode.ofText?).getD .auto

/-- The verbosity in a command line, unless it is contradictory. -/
def Scan.verbosity? (scan : Scan) : Option Verbosity :=
  Verbosity.ofCounts? (scan.count .verbose) (scan.count .quiet)

/-- What a run is asked to do. -/
structure RunRequest where
  root : FilePath
  sources : List FilePath
  values : List String
  only : List String
  apply : Bool
  diff : Bool
  deriving Repr, DecidableEq

/-- The run that a command line asks for. -/
def Scan.runRequest (scan : Scan) : RunRequest where
  root := FilePath.parse ((scan.operand? .root).getD "")
  sources := (scan.operands .config).map FilePath.parse
  values := scan.operands .value
  only := scan.operands .fragment
  apply := scan.has .apply
  diff := scan.has .diff

end BlockSync.Cli
