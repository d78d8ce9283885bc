import BlockSync.FileTree.Path

namespace BlockSync

/-!
# File trees

A tree of directories, files and symbolic links, as it is seen without following any link.
-/

/--
A file with its bytes, which a locked one keeps, a link with the text of its target, or a directory.
-/
inductive FileNode where
  | file (content : ByteArray) (isLocked : Bool := false)
  | link (target : String)
  | directory (entries : List (String × FileNode))
  deriving Inhabited

namespace FileNode

/-- A directory without entries. -/
def emptyDirectory : FileNode := .directory []

/-- The entries of a directory; anything else has none. -/
def entries : FileNode → List (String × FileNode)
  | .directory entries => entries
  | _ => []

/-- The entry with a name. -/
def child? (node : FileNode) (name : String) : Option FileNode :=
  node.entries.lookup name

/-- The node at the end of a list of names. -/
def at? : FileNode → List String → Option FileNode
  | node, [] => some node
  | node, name :: rest => (node.child? name).bind (·.at? rest)

/-- Puts an entry under a name: in place of the old one, or as the last. -/
def putEntry (name : String) (entry : FileNode) :
    List (String × FileNode) → List (String × FileNode)
  | [] => [(name, entry)]
  | (other, old) :: rest =>
      if other = name then (name, entry) :: rest else (other, old) :: putEntry name entry rest

/-- Puts a node at the end of a list of names, in new directories where there are none. -/
def put (new : FileNode) : List String → FileNode → FileNode
  | [], _ => new
  | name :: rest, node =>
      .directory (putEntry name (put new rest ((node.child? name).getD emptyDirectory))
        node.entries)

/-- Takes away the node at the end of a list of names. -/
def remove : List String → FileNode → FileNode
  | [], node => node
  | [name], node => .directory (node.entries.filter (·.1 ≠ name))
  | name :: rest, node =>
      match node.child? name with
      | none => node
      | some inner => .directory (putEntry name (remove rest inner) node.entries)

mutual

/-- The files below a node, each with the names that lead to it in reverse. -/
def filesBelow (above : List String) : FileNode → List (List String × ByteArray)
  | .file content _ => [(above.reverse, content)]
  | .link _ => []
  | .directory entries => filesAmong above entries

/-- The files below some entries. -/
def filesAmong (above : List String) :
    List (String × FileNode) → List (List String × ByteArray)
  | [] => []
  | (name, node) :: others => node.filesBelow (name :: above) ++ filesAmong above others

end

/-- All files of a tree that are reached without following a link. -/
def files (node : FileNode) : List (List String × ByteArray) := node.filesBelow []

mutual

/-- The number of steps that all links of a tree can lead to. -/
def linkSteps : FileNode → Nat
  | .file .. => 0
  | .link target => (FilePath.parse target).names.length + 1
  | .directory entries => linkStepsAmong entries

/-- The number of steps that all links below some entries can lead to. -/
def linkStepsAmong : List (String × FileNode) → Nat
  | [] => 0
  | (_, node) :: others => node.linkSteps + linkStepsAmong others

end

end FileNode

end BlockSync
