import BlockSync.FileTree.Resolve
import BlockSync.Merge
import BlockSync.Text.Utf8

namespace BlockSync

/-!
# Text files

Files are read and written as UTF-8 without touching their line ends. A text of characters always
has an encoding, so a writing fails only for its file. The outcome of a merge is only written if it
differs from what was there.
-/

/-- Why a text could not be read from a file. -/
inductive ReadError where
  | file (error : FileError)
  | undecodable (error : Text.DecodeError)
  deriving Repr, DecidableEq

/-- The message of a failed reading. -/
def ReadError.message : ReadError → String
  | .file error => error.message
  | .undecodable error => error.message

namespace FileNode

/-- The text of the file that a path leads to. -/
def readText (tree : FileNode) (path : FilePath) : Except ReadError String := do
  let content ← (tree.read path).mapError .file
  (Text.decode content).mapError .undecodable

/-- The tree after a text was written to a file. -/
def writeText (tree : FileNode) (path : FilePath) (text : String) : Except FileError FileNode :=
  tree.write path (Text.encode text)

/-- Writes the outcome of a merge if it changed anything, and tells whether it did. -/
def writeIfChanged
    (tree : FileNode)
    (path : FilePath)
    (result : MergeResult) :
    Except FileError (FileNode × Bool) :=
  if result.changed then (tree.writeText path result.contents).map (·, true)
  else .ok (tree, false)

end FileNode

end BlockSync
