import BlockSync.FileTree.Resolve
import BlockSync.Glob.Filter

namespace BlockSync

/-!
# Target files

The files below a directory that a filter takes in. A directory that another filter excludes is
not looked into, and neither is one behind a link. A link to anything but a directory counts as a
file.
-/

namespace Targets

/-- Names below a directory as one path, with a slash between neighbours. -/
def relative (names : List String) : List Char :=
  ("/".intercalate names).toList

/-- Whether a file is wanted, given the names that lead to it. -/
def isWanted (included excluded : List Char → Bool) (names : List String) : Bool :=
  !excluded (relative names) && included (relative names)

/-- Whether a directory is looked into. A slash at the end lets patterns for directories match. -/
def isEntered (excluded : List Char → Bool) (names : List String) : Bool :=
  !excluded (relative names ++ ['/'])

mutual

/--
The wanted files at or below a node. Names below the root come in reverse. The first two arguments
tell which paths are taken in and which are excluded, the third whether a link at given names leads
to a directory.
-/
def below
    (included excluded : List Char → Bool)
    (directory : List String → Bool)
    (names : List String) :
    FileNode → List (List String)
  | .file .. =>
      if isWanted included excluded names.reverse then [names.reverse] else []
  | .link _ =>
      if directory names.reverse then []
      else if isWanted included excluded names.reverse then [names.reverse]
      else []
  | .directory entries =>
      if names.isEmpty || isEntered excluded names.reverse then
        among included excluded directory names entries
      else
        []

/-- The wanted files at or below some entries of a directory. -/
def among
    (included excluded : List Char → Bool)
    (directory : List String → Bool)
    (names : List String) :
    List (String × FileNode) → List (List String)
  | [] => []
  | (name, node) :: others =>
      below included excluded directory (name :: names) node ++
        among included excluded directory names others

end

/-- The wanted files below a directory without links on the way, in the order of their names. -/
def find
    (tree : FileNode)
    (root : FilePath)
    (included excluded : List Char → Bool) :
    List FilePath :=
  match tree.at? root.names with
  | some (.directory entries) =>
      let directory := fun names => tree.isDirectory ⟨root.root, root.names ++ names⟩
      let found := among included excluded directory [] entries
      (found.mergeSort FilePath.namesPrecede).map fun names =>
        ⟨root.root, root.names ++ names⟩
  | _ => []

end Targets

/-- The files below a directory that match patterns and are not excluded, sorted. -/
def resolveTargets
    (tree : FileNode)
    (root : FilePath)
    (patterns exclude : List String) :
    Except Fault (List FilePath) := do
  let included ← Glob.Filter.parse patterns
  let excluded ← Glob.Filter.parse exclude
  let root ← (tree.resolve root).mapError .path
  return Targets.find tree root included.accepts excluded.accepts

end BlockSync
