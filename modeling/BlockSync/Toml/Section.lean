import BlockSync.Value.Basic

namespace BlockSync.Toml

/-!
# Sections

A section is what stands under a header, as the list of the definitions in it, in the order of the
text. A name can be defined again, and then its definitions stand side by side: they are the parts
of one table. This module holds what is asked of a section: the names in it, the parts of a name
and the last of them, and the change of that last part.
-/

/-- A key of a definition, and whether a dotted key goes on behind it. -/
structure Key where
  name : String
  dotted : Bool
  deriving Repr, DecidableEq

/-- What a key is defined as: a value, a table, which may be only implied, or an array of tables. -/
inductive Node where
  | value (value : Value)
  | table (implied : Bool) (entries : List (Key × Node))
  | tables (elements : List (List (Key × Node)))
  deriving Inhabited

/-- The definitions under a header. -/
abbrev Section := List (Key × Node)

/-- Two definitions that do not go together. -/
inductive Clash where
  | keyExists (key : String)
  | redefinition
  deriving Repr, DecidableEq

namespace Node

/-- The definitions in a table; anything else has none. -/
def entries : Node → Section
  | .table _ entries => entries
  | _ => []

/-- Whether a node is a single table. -/
def isTable : Node → Bool
  | .table .. => true
  | _ => false

/-- Whether a node is a table that is only implied. -/
def isImplied : Node → Bool
  | .table implied _ => implied
  | _ => false

mutual

/-- How deep tables are nested in a node. -/
def depth : Node → Nat
  | .value _ => 0
  | .table _ entries => depthOfEntries entries + 1
  | .tables elements => depthOfElements elements + 1

/-- How deep tables are nested in a section. -/
def depthOfEntries : List (Key × Node) → Nat
  | [] => 0
  | (_, node) :: others => max node.depth (depthOfEntries others)

/-- How deep tables are nested in some sections. -/
def depthOfElements : List (List (Key × Node)) → Nat
  | [] => 0
  | entries :: others => max (depthOfEntries entries) (depthOfElements others)

end

end Node

namespace Section

/-- How deep tables are nested in a section. -/
def depth (entries : Section) : Nat := Node.depthOfEntries entries

/-- The names that a section defines, each once. -/
def names (entries : Section) : List String :=
  (entries.map fun entry => entry.1.name).eraseDups

/-- All that a name is defined as: its parts. -/
def named (entries : Section) (name : String) : List Node :=
  (entries.filter fun entry => entry.1.name = name).map (·.2)

/-- Whether a name has more than one part. -/
def isSplit (entries : Section) (name : String) : Bool := 1 < (entries.named name).length

/-- The last definition of a name. -/
def last? (entries : Section) (name : String) : Option (Key × Node) :=
  entries.reverse.find? fun entry => entry.1.name = name

/-- The name of the last single table of a section. -/
def lastTable? (entries : Section) : Option String :=
  (entries.reverse.find? fun entry => entry.2.isTable).map fun entry => entry.1.name

/-- A section in which the last definition of a name says something else. -/
def replaceLast (entries : Section) (name : String) (node : Node) : Section :=
  let later := entries.reverse.takeWhile fun entry => entry.1.name ≠ name
  match entries.reverse.drop later.length with
  | [] => entries
  | (key, _) :: earlier => earlier.reverse ++ (key, node) :: later.reverse

/-- A section in which a name is defined once, where its first part stood. -/
def replaceAll (entries : Section) (name : String) (node : Node) : Section :=
  let earlier := entries.takeWhile fun entry => entry.1.name ≠ name
  match entries.drop earlier.length with
  | [] => entries
  | (key, _) :: later => earlier ++ (key, node) :: later.filter fun entry => entry.1.name ≠ name

/-- The definition that a dotted key gives: every part but the last implies a table. -/
def entryAt (name : String) (rest : List String) (node : Node) : Key × Node :=
  match rest with
  | [] => (⟨name, false⟩, node)
  | next :: rest => (⟨name, true⟩, .table true [entryAt next rest node])

end Section

end BlockSync.Toml
