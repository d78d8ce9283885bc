import BlockSync.Text.Lines

namespace BlockSync

/-!
# Paths

A path is a list of names, from the root or from wherever it is used. Empty names and single dots
are dropped when a path is read; double dots stay, because a link may stand before them.
-/

/-- A path of names, with the slashes that start it, if any. -/
structure FilePath where
  root : String
  names : List String
  deriving Repr, DecidableEq

namespace FilePath

/-- The path that stays where it is. -/
def here : FilePath := ⟨"", []⟩

/-- Names between slashes, without empty ones and single dots. -/
def namesOf (text : List Char) : List String :=
  ((Text.splitOn '/' text).filter fun name => name ≠ [] ∧ name ≠ ['.']).map String.ofList

/-- The path that a text describes. Exactly two slashes at the start are kept apart from one. -/
def parse (text : String) : FilePath :=
  let chars := text.toList
  let root :=
    match chars with
    | '/' :: '/' :: '/' :: _ => "/"
    | '/' :: '/' :: _ => "//"
    | '/' :: _ => "/"
    | _ => ""
  ⟨root, namesOf chars⟩

/-- The text of a path. -/
def text (path : FilePath) : String :=
  if path.root.isEmpty ∧ path.names = [] then "."
  else path.root ++ "/".intercalate path.names

/-- The greatest number of bytes in a name. -/
def nameLimit : Nat := 255

/-- The greatest number of bytes in the text of a path. -/
def pathLimit : Nat := 4095

/-- Whether the text of a path has more bytes than any path may have. -/
def isTooLong (path : FilePath) : Bool := pathLimit < path.text.utf8ByteSize

/-- Whether a text holds the character that ends all paths, so that nothing can have that path. -/
def endsEarly (text : String) : Bool := text.toList.contains '\x00'

/-- A path from the root. -/
def isAbsolute (path : FilePath) : Bool := !path.root.isEmpty

/-- A path inside another one; a path from the root stands alone. -/
def join (path other : FilePath) : FilePath :=
  if other.isAbsolute then other else ⟨path.root, path.names ++ other.names⟩

/-- A name inside a path. -/
def child (path : FilePath) (name : String) : FilePath :=
  ⟨path.root, path.names ++ [name]⟩

/-- The last name of a path. -/
def name (path : FilePath) : String := path.names.getLast?.getD ""

/-- The names that lead from one path to another, if the other lies within it. -/
def within? (path directory : FilePath) : Option (List String) :=
  if path.root = directory.root ∧ path.names.take directory.names.length = directory.names then
    some (path.names.drop directory.names.length)
  else
    none

/-- The path that leads from a directory to a path, going up where it must. -/
def relativeTo (path directory : FilePath) : FilePath :=
  let shared := ((path.names.zip directory.names).takeWhile fun (a, b) => a = b).length
  ⟨"", List.replicate (directory.names.length - shared) ".." ++ path.names.drop shared⟩

/-- The order of lists of names: the first names that differ decide, and a shorter list is first. -/
def namesPrecede : List String → List String → Bool
  | [], _ => true
  | _ :: _, [] => false
  | name :: names, other :: others =>
      if name = other then namesPrecede names others else decide (name < other)

/-- The order of paths: name by name. -/
def precedes (a b : FilePath) : Bool :=
  namesPrecede (a.root :: a.names) (b.root :: b.names)

end FilePath

end BlockSync
