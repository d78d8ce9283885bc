import BlockSync.Cli.Session

namespace BlockSync.Cli

/-!
# The command line

The outer layer: it takes the files below the current directory, and those that the command line
names, into a tree, carries out a session on it, and writes back the files that the session changed.
-/

/-- The target of a link that leads nowhere: a name that no file has. -/
def nowhere : String := "\x00"

/-- The file at a path, which is locked if it cannot be opened for writing. -/
def readFile (path : String) : IO FileNode := do
  let content ← IO.FS.readBinFile path
  try
    discard (IO.FS.Handle.mk path .readWrite)
    return .file content
  catch _ => return .file content true

mutual

/-- The node behind an entry of a directory. A link leads to the path that it resolves to. -/
partial def readEntry (entry : IO.FS.DirEntry) : IO FileNode := do
  match (← entry.path.symlinkMetadata).type with
  | .dir => return .directory (← readEntries (← entry.path.readDir).toList)
  | .symlink =>
      try return .link (← IO.FS.realPath entry.path).toString
      catch _ => return .link nowhere
  | _ => readFile entry.path.toString

/-- The nodes behind the entries of a directory; what cannot be read is left out. -/
partial def readEntries : List IO.FS.DirEntry → IO (List (String × FileNode))
  | [] => return []
  | entry :: others => do
      let rest ← readEntries others
      try return (entry.fileName, ← readEntry entry) :: rest
      catch _ => return rest

end

/-- Adds what a word of the command line names, unless the tree holds it or there is nothing. -/
def addNamed (directory : FilePath) (tree : FileNode) (word : String) : IO FileNode := do
  let written := directory.join (FilePath.parse word)
  if tree.reaches written then return tree
  try
    let resolved ← IO.FS.realPath written.text
    let node : FileNode ←
      if ← resolved.isDir then
        .directory <$> readEntries (← resolved.readDir).toList
      else
        readFile resolved.toString
    let path := FilePath.parse resolved.toString
    let tree := FileNode.put node path.names tree
    if path = written then return tree
    else return FileNode.put (.link path.text) (FileNode.normalized written.names) tree
  catch _ => return tree

/-- The paths that a word of the command line may name: the word, or what follows an equals sign. -/
def pathsIn (word : String) : List String :=
  [word, String.ofList ((word.toList.dropWhile (· ≠ '=')).drop 1)].filter (· ≠ "")

/-- The variables that a session asks for, as far as they are set. -/
def readEnvironment : IO Environment :=
  [levelVariable, "FORCE_COLOR", "NO_COLOR"].filterMapM fun name => do
    return (← IO.getEnv name).map fun value => (name, value)

/-- What the session finds. -/
def readSurroundings (line : List String) : IO Surroundings := do
  let current ← IO.currentDir
  let directory := FilePath.parse current.toString
  let entries ← readEntries (← current.readDir).toList
  let tree := FileNode.put (.directory entries) directory.names .emptyDirectory
  let tree ← (line.flatMap pathsIn).foldlM (addNamed directory) tree
  let terminal ← (← IO.getStdout).isTty
  return ⟨tree, directory, ← readEnvironment, terminal, terminal⟩

/-- Writes the files that differ from what they were. -/
def writeChanges (before after : FileNode) : IO Unit := do
  let old := before.files
  for (names, content) in after.files do
    if old.lookup names != some content then
      IO.FS.writeBinFile (FilePath.mk "/" names).text content

/-- Writes a transcript to the streams of the process. -/
def writeTranscript (transcript : Transcript) : IO Unit := do
  for piece in transcript do
    match piece.stream with
    | .results => (← IO.getStdout).putStr piece.text
    | .diagnostics => (← IO.getStderr).putStr piece.text

end BlockSync.Cli

/-- Carries out a command line. -/
def main (line : List String) : IO UInt32 := do
  let surroundings ← BlockSync.Cli.readSurroundings line
  let session := BlockSync.Cli.runSession surroundings line
  BlockSync.Cli.writeChanges surroundings.tree session.tree
  BlockSync.Cli.writeTranscript session.transcript
  match session.ending with
  | .exit _ => pure ()
  | .crash crash => IO.eprintln crash.message
  return session.ending.number.toUInt32
