import BlockSync.Toml.Parts

namespace BlockSync.Toml

/-!
# The outermost section

The outermost section of a document grows while the document is read. Whenever a name comes back
there as another part, what the part brings is added to what the earlier parts had when they came,
and all of that must agree. So every definition is looked at once, and what an implied table takes
in later, from the header right after it, is left out until the document is complete.
-/

/-- The outermost section, and for each name in several parts what its parts had when they came. -/
structure Outline where
  entries : Section
  settled : List (String × Section)
  deriving Inhabited

namespace Outline

/-- Before anything is read. -/
def empty : Outline := ⟨[], []⟩

/-- What the parts of a name had when they came; at first, all that the only part holds. -/
def settledFor (outline : Outline) (name : String) : Except Clash Section :=
  match outline.settled.lookup name with
  | some known => .ok known
  | none => ((outline.entries.named name).flatMap Node.entries).foldlM Section.add []

/-- Adds a definition to the outermost section. -/
def add (outline : Outline) (entry : Key × Node) : Except Clash Outline := do
  let name := entry.1.name
  let entries ← outline.entries.add entry
  if Section.hasNewPart outline.entries entries name then
    outline.entries.checkReopening entry
    let known ← outline.settledFor name
    let known ← entry.2.entries.foldlM Section.add known
    known.agreeAll
    let others := outline.settled.filter fun other => other.1 ≠ name
    return ⟨entries, (name, known) :: others⟩
  else
    return ⟨entries, outline.settled⟩

/-- Adds a value under a key, which may be dotted. -/
def addValue (outline : Outline) (path : List String) (value : Value) : Except Clash Outline :=
  match path with
  | [] => .ok outline
  | name :: rest => outline.add (Section.entryAt name rest (.value value))

/-- The table that a complete document stands for. -/
def toTable (outline : Outline) : Except Clash Table := outline.entries.toTable

end Outline

end BlockSync.Toml
