import BlockSync.Toml.Literal
import BlockSync.Toml.Outline

namespace BlockSync.Toml

/-!
# Documents

A document is a list of values under keys, followed by sections under headers. A header in single
brackets opens a table, one in double brackets the next element of an array of tables. A section
also takes in the sections after it whose headers go on from its own.
-/

/-- A header: its key, and whether it stands in double brackets. -/
structure Header where
  element : Bool
  path : List String
  deriving Repr, DecidableEq

/-- Whether a header goes on from a key. -/
def Header.isBelow (header : Header) (path : List String) : Bool :=
  header.path ≠ path && header.path.take path.length = path

/-- Skips what may stand at the end of a line, with the line end. -/
def endLine (text : List Char) : Except Failure (List Char) := do
  let text := text.dropWhile fun c => isIndent c || c = '\r'
  let rest ← match text with
    | '#' :: rest => comment rest
    | _ => pure text
  match rest with
  | [] => return []
  | '\n' :: rest => return rest
  | _ => refuse .unexpected

/-- A key, an equals sign and a value, up to the end of the line. -/
def assignment (text : List Char) : Except Failure ((List String × Value) × List Char) := do
  let (path, rest) ← key text
  let (value, rest) ← value (← equalsSign rest)
  return ((path, value), ← endLine rest)

/-- The brackets and the key that open a header, read from the first bracket on. -/
def headerStart (text : List Char) : Except Failure (Header × List Char) := do
  let inner := text.drop 1
  match inner with
  | [] => refuse .endOfText
  | '[' :: inner =>
      let (path, rest) ← key inner
      return (⟨true, path⟩, rest)
  | _ =>
      let (path, rest) ← key inner
      return (⟨false, path⟩, rest)

/-- A header with its line, read from the first bracket on. -/
def header (text : List Char) : Except Failure (Header × List Char) := do
  let (header, rest) ← headerStart text
  let closing := if header.element then [']', ']'] else [']']
  match word? closing rest with
  | some rest => return (header, ← endLine rest)
  | none => refuse .unexpected

/-- Refuses definitions that clash. -/
def orClash (result : Except Clash α) : Except Failure α := result.mapError .clash

/-- The node of a section under the last parts of its header, in tables implied by the others. -/
def nodeAt (names : List String) (node : Node) : Node :=
  match names with
  | [] => node
  | name :: names => .table true [(⟨name, false⟩, nodeAt names node)]

/--
A section with all that belongs to it, under its name within the section that takes it in, and
whether it goes on an array of tables of that name.
-/
structure Placed where
  name : String
  node : Node
  goesOn : Bool

/-- Adds a section to the one that takes it in. -/
def Placed.addTo (placed : Placed) (entries : Section) : Except Failure Section :=
  if placed.goesOn then orClash (entries.addElementInside placed.name placed.node.entries)
  else orClash (entries.addInside placed.name placed.node)

/-- Which outermost array of tables is being gone on with, as the next elements of one are read. -/
def runningIn (path : List String) (running : Option String) : Option String :=
  match path with
  | [name] => some name
  | _ => running

mutual

/--
A section with all that belongs to it, read from its header on, within the section that takes it
in, whose key is given. A header in double brackets takes in the elements that follow it, unless it
is itself such a follower. In a further element of an outermost array, a longer header in double
brackets that leads back to the name of the array goes on an array of its own.
-/
def sectionAt :
    Nat → Option String → List String → Bool → List Char → Except Failure (Placed × List Char)
  | 0, _, _, _, _ => refuse .unexpected
  | fuel + 1, running, outer, follower, text => do
      let (header, rest) ← header text
      let (entries, rest) ← bodyAt fuel running header.path [] rest
      orClash entries.agreeAll
      match header.path.drop outer.length with
      | [] => return (⟨"", .table false entries, false⟩, rest)
      | [name] =>
          if header.element && !follower then
            let (others, rest) ← followersAt fuel running header.path rest
            return (⟨name, .tables (entries :: others), false⟩, rest)
          else
            return (⟨name, .table false entries, false⟩, rest)
      | name :: names =>
          let node := if header.element then .tables [entries] else .table false entries
          let goesOn := header.element && running = some name
          return (⟨name, nodeAt names node, goesOn⟩, rest)

/-- The values of a section, added to those before them, then the sections below it. -/
def bodyAt :
    Nat → Option String → List String → Section → List Char → Except Failure (Section × List Char)
  | 0, _, _, _, _ => refuse .unexpected
  | fuel + 1, running, path, entries, text => do
      let text ← skip text
      match text with
      | [] => return (entries, [])
      | '[' :: _ => innerAt fuel running path entries text
      | _ =>
          let ((name, value), rest) ← assignment text
          let entries ← orClash (entries.addValueInside name value)
          bodyAt fuel running path entries rest

/-- The sections below a section, added to what it holds. -/
def innerAt :
    Nat → Option String → List String → Section → List Char → Except Failure (Section × List Char)
  | 0, _, _, _, _ => refuse .unexpected
  | fuel + 1, running, path, entries, text => do
      if text.isEmpty then
        return (entries, [])
      let (next, _) ← headerStart text
      if next.isBelow path then
        let (placed, rest) ← sectionAt fuel running path false text
        innerAt fuel running path (← placed.addTo entries) rest
      else
        return (entries, text)

/-- The further elements of an array of tables that follow right after an element. -/
def followersAt :
    Nat → Option String → List String → List Char → Except Failure (List Section × List Char)
  | 0, _, _, _ => refuse .unexpected
  | fuel + 1, running, path, text => do
      if text.isEmpty then
        return ([], [])
      let (next, _) ← headerStart text
      if next.element && next.path = path then
        let (placed, rest) ← sectionAt fuel (runningIn path running) path true text
        let (others, rest) ← followersAt fuel running path rest
        return (placed.node.entries :: others, rest)
      else
        return ([], text)

end

/-- Refuses a definition that clashes with those before it at the outermost level. -/
def orDefect (result : Except Clash α) : Except Failure α :=
  result.mapError fun clash => .defect (.clashing clash)

/-- All sections of a document, added to the values before them. -/
def sectionsAt : Nat → Outline → List Char → Except Failure Outline
  | 0, _, _ => refuse .unexpected
  | fuel + 1, outline, text => do
      if text.isEmpty then
        return outline
      let (placed, rest) ← sectionAt (2 * text.length + 2) none [] false text
      sectionsAt fuel (← orDefect (outline.add (⟨placed.name, false⟩, placed.node))) rest

/-- The values in front of all sections, then the sections. -/
def documentAt : Nat → Outline → List Char → Except Failure Outline
  | 0, _, _ => refuse .unexpected
  | fuel + 1, outline, text => do
      let text ← skip text
      match text with
      | [] => return outline
      | '[' :: _ => sectionsAt (text.length + 1) outline text
      | _ =>
          let ((path, value), rest) ← assignment text
          documentAt fuel (← orDefect (outline.addValue path value)) rest

/-- The table that a document stands for. -/
def parse (text : String) : Except Failure Table := do
  let text := text.toList
  let outline ← documentAt (text.length + 1) .empty text
  orClash outline.toTable

end BlockSync.Toml
