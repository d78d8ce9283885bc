import BlockSync.FileTree.Basic
import BlockSync.Text.Quoted

namespace BlockSync

/-!
# Following links

A path is opened by following every link on the way, which fails if a name is missing or if links
lead in a circle. A path is resolved by replacing every link with what it leads to; names that do
not exist are kept as they are.
-/

/-- Why a path could not be opened. -/
inductive FileErrorKind where
  | missing
  | notDirectory
  | isDirectory
  | tooManyLinks
  | nameTooLong
  | denied
  deriving Repr, DecidableEq

/-- A path that could not be opened. -/
structure FileError where
  kind : FileErrorKind
  path : FilePath
  deriving Repr, DecidableEq

/-- The number and the text of a failure. -/
def FileErrorKind.message : FileErrorKind → String
  | .missing => "[Errno 2] No such file or directory"
  | .notDirectory => "[Errno 20] Not a directory"
  | .isDirectory => "[Errno 21] Is a directory"
  | .tooManyLinks => "[Errno 40] Too many levels of symbolic links"
  | .nameTooLong => "[Errno 36] File name too long"
  | .denied => "[Errno 13] Permission denied"

/-- The message of a failure. -/
def FileError.message (error : FileError) : String :=
  error.kind.message ++ ": " ++ Text.quoted error.path.text

/-- Why it cannot even be told whether there is anything at the end of a path. -/
inductive PathFault where
  | circle (path : FilePath)
  | tooLong (path : FilePath)
  | nullCharacter
  deriving Repr, DecidableEq

/-- The message of a fault. -/
def PathFault.message : PathFault → String
  | .circle path => "Symlink loop from " ++ Text.quoted path.text
  | .tooLong path => FileError.message ⟨.nameTooLong, path⟩
  | .nullCharacter => "embedded null byte"

namespace FileNode

/-- The number of links that are followed on the way to one file. -/
def linkLimit : Nat := 40

/--
Follows names from a directory that has been reached without links. The first number bounds the
links still to be followed, the second all steps.
-/
def follow (tree : FileNode) :
    Nat → Nat → List String → List String → Except FileErrorKind (List String × FileNode)
  | _, 0, _, _ => .error .tooManyLinks
  | links, steps + 1, reached, rest =>
      match tree.at? reached with
      | none => .error .missing
      | some node =>
          match rest with
          | [] => .ok (reached, node)
          | name :: rest =>
              match node with
              | .directory _ =>
                  if name = ".." then
                    tree.follow links steps reached.dropLast rest
                  else if FilePath.nameLimit < name.utf8ByteSize then
                    .error .nameTooLong
                  else
                    match node.child? name with
                    | none => .error .missing
                    | some (.link target) =>
                        match links with
                        | 0 => .error .tooManyLinks
                        | links + 1 =>
                            let path := FilePath.parse target
                            tree.follow links steps (if path.isAbsolute then [] else reached)
                              (path.names ++ rest)
                    | some _ => tree.follow links steps (reached ++ [name]) rest
              | _ => .error .notDirectory

/-- The node that a path from the root leads to, with the names that lead to it without links. -/
def locate (tree : FileNode) (path : FilePath) :
    Except FileErrorKind (List String × FileNode) :=
  tree.follow linkLimit (linkLimit * (tree.linkSteps + 1) + path.names.length + 1) [] path.names

/--
What a path leads to from a directory, if anything. A path that is too long, or that comes to a name
that is too long, is a fault; one that holds a null character leads to nothing.
-/
def lookUp (tree : FileNode) (here path : FilePath) : Except PathFault (Option FileNode) :=
  if FilePath.endsEarly path.text then .ok none
  else if path.isTooLong then .error (.tooLong path)
  else
    match tree.locate (here.join path) with
    | .ok (_, node) => .ok (some node)
    | .error .nameTooLong => .error (.tooLong path)
    | .error _ => .ok none

/-- Whether a path leads from a directory to a file. -/
def hasFile (tree : FileNode) (here path : FilePath) : Except PathFault Bool := do
  match ← tree.lookUp here path with
  | some (.file ..) => return true
  | _ => return false

/-- Whether a path leads from a directory to a directory. -/
def hasDirectory (tree : FileNode) (here path : FilePath) : Except PathFault Bool := do
  match ← tree.lookUp here path with
  | some (.directory _) => return true
  | _ => return false

/-- Whether a path can be followed to a directory. -/
def isDirectory (tree : FileNode) (path : FilePath) : Bool :=
  match tree.locate path with
  | .ok (_, .directory _) => true
  | _ => false

/-- Whether there is anything at the end of a path. -/
def reaches (tree : FileNode) (path : FilePath) : Bool :=
  match tree.locate path with
  | .ok _ => true
  | .error _ => false

/-- The bytes of the file that a path leads to. -/
def read (tree : FileNode) (path : FilePath) : Except FileError ByteArray :=
  match tree.locate path with
  | .ok (_, .file content _) => .ok content
  | .ok _ => .error ⟨.isDirectory, path⟩
  | .error kind => .error ⟨kind, path⟩

/--
The tree after the file that a path leads to was written. Only files that are there are written, and
a locked one refuses it.
-/
def write (tree : FileNode) (path : FilePath) (content : ByteArray) : Except FileError FileNode :=
  match tree.locate path with
  | .ok (names, .file _ false) => .ok (put (.file content) names tree)
  | .ok (_, .file _ true) => .error ⟨.denied, path⟩
  | .ok _ => .error ⟨.isDirectory, path⟩
  | .error kind => .error ⟨kind, path⟩

/-- Drops each name that is followed by a step up, together with that step. -/
def normalized (names : List String) : List String :=
  names.foldl (fun done name => if name = ".." then done.dropLast else done ++ [name]) []

/--
Resolves names from a resolved directory on, with the links that are being resolved. The answer
says whether this came to an end, rather than in a circle.
-/
def resolveFrom (tree : FileNode) :
    Nat → List (List String) → List String → List String → List String × Bool
  | 0, _, path, rest => (path ++ rest, false)
  | _ + 1, _, path, [] => (path, true)
  | steps + 1, pending, path, name :: rest =>
      if name = ".." then
        tree.resolveFrom steps pending path.dropLast rest
      else
        let next := path ++ [name]
        match tree.at? next with
        | some (.link target) =>
            if pending.contains next then
              (next ++ rest, false)
            else
              let target := FilePath.parse target
              match tree.resolveFrom steps (next :: pending)
                  (if target.isAbsolute then [] else path) target.names with
              | (resolved, true) => tree.resolveFrom steps pending resolved rest
              | (stuck, false) => (stuck ++ rest, false)
        | _ => tree.resolveFrom steps pending next rest

/-- A path from the root without links and steps up; names that do not exist are kept. -/
def resolve (tree : FileNode) (path : FilePath) : Except PathFault FilePath :=
  if FilePath.endsEarly path.text then .error .nullCharacter
  else match tree.resolveFrom (tree.linkSteps + path.names.length + 1) [] [] path.names with
  | (names, true) => .ok ⟨"/", names⟩
  | (names, false) =>
      let resolved : FilePath := ⟨"/", normalized names⟩
      match tree.locate resolved with
      | .error .tooManyLinks => .error (.circle resolved)
      | _ => .ok resolved

/-- The path that leads from a directory to a file, once all links are resolved. -/
def relativePath (tree : FileNode) (path directory : FilePath) :
    Except PathFault FilePath := do
  let path ← tree.resolve path
  let directory ← tree.resolve directory
  return match path.within? directory with
    | some names => ⟨"", names⟩
    | none => path.relativeTo directory

end FileNode

end BlockSync
