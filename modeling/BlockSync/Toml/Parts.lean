import BlockSync.Toml.Section

namespace BlockSync.Toml.Section

/-!
# The parts of a name

A name can be defined again as long as its parts complement each other: tables that are only
implied, by a dotted key or by a longer header, and at most one that has a header of its own. A
table that a dotted key implies takes no header, and a table with a header takes no dotted key from
elsewhere. Arrays of tables grow with every header, and a longer header goes on in their last
element.

Implied tables that follow each other become one part; all other parts stay apart until they are
gathered. Whether parts go together can be asked before: they agree if all that they define can be
added to one table, at every depth.
-/

/-- Puts a definition beside the parts that its name has, and lets arrays of tables run on. -/
def place (entries : Section) (entry : Key × Node) : Except Clash Section :=
  let (key, node) := entry
  match entries.last? key.name with
  | none => .ok (entries ++ [entry])
  | some (_, .table ..) => .ok (entries ++ [entry])
  | some (_, .value _) => .error (.keyExists key.name)
  | some (_, .tables known) =>
      match node with
      | .tables added => .ok (entries.replaceLast key.name (.tables (known ++ added)))
      | _ => .error (if key.dotted then .redefinition else .keyExists key.name)

/-- Whether the last step made another part of a name beside those that it had. -/
def hasNewPart (before after : Section) (name : String) : Bool :=
  after.isSplit name && (before.named name).length < (after.named name).length

mutual

/--
Adds a definition to a section. Implied tables that follow each other become one; other tables stay
apart. The number bounds the depth.
-/
def addWithin : Nat → Section → Key × Node → Except Clash Section
  | 0, entries, _ => .ok entries
  | depth + 1, entries, (key, node) =>
      match entries.last? key.name with
      | none => .ok (entries ++ [(key, node)])
      | some (old, current) =>
          match current, node with
          | .table true known, .table true added =>
              if key.dotted || old.dotted || entries.lastTable? != some key.name then
                .ok (entries ++ [(key, node)])
              else do
                let joined ← joinWithin depth known added
                return entries.replaceLast key.name (.table true joined)
          | .table true _, .table false _ =>
              if old.dotted then .error .redefinition else .ok (entries ++ [(key, node)])
          | .table false _, .table true _ =>
              if key.dotted then .error .redefinition else .ok (entries ++ [(key, node)])
          | .tables known, .tables added =>
              .ok (entries.replaceLast key.name (.tables (known ++ added)))
          | .tables known, .table implied added =>
              match known.getLast? with
              | none => .error (.keyExists key.name)
              | some last =>
                  if key.dotted then .error .redefinition
                  else if !implied then .error (.keyExists key.name)
                  else do
                    let last ← joinWithin depth last added
                    return entries.replaceLast key.name (.tables (known.dropLast ++ [last]))
          | _, _ => .error (.keyExists key.name)

/-- Adds definitions to a table in which all parts of a name must go together at once. -/
def joinWithin : Nat → Section → List (Key × Node) → Except Clash Section
  | 0, known, _ => .ok known
  | depth + 1, known, added =>
      added.foldlM
        (fun joined entry => do
          let more ← addWithin depth joined entry
          if hasNewPart joined more entry.1.name then
            reopenWithin depth joined entry
            agreeWithin depth more entry.1.name
          let _ ← gatherNamedWithin depth more entry.1.name
          return more)
        known

/--
Makes sure that a header can come after longer ones: a table below it that already stands in
several parts takes no further one from it.
-/
def reopenWithin : Nat → Section → Key × Node → Except Clash Unit
  | 0, _, _ => .ok ()
  | depth + 1, entries, (key, node) =>
      if node.isTable && !node.isImplied then do
        let gathered ← gatherNamedWithin depth entries key.name
        match node.entries.find? fun entry =>
            entry.2.isImplied && gathered.isSplit entry.1.name with
        | some (inner, _) => .error (.keyExists inner.name)
        | none => .ok ()
      else
        .ok ()

/-- Makes sure that the parts of a name go together. -/
def agreeWithin : Nat → Section → String → Except Clash Unit
  | 0, _, _ => .ok ()
  | depth + 1, entries, name =>
      if entries.isSplit name then do
        let inner ← ((entries.named name).flatMap Node.entries).foldlM
          (fun inner entry => addWithin depth inner entry) []
        (names inner).forM fun name => agreeWithin depth inner name
      else
        .ok ()

/-- What the parts of a name define together. -/
def gatherNamedWithin : Nat → Section → String → Except Clash Section
  | 0, _, _ => .ok []
  | depth + 1, entries, name =>
      match entries.named name with
      | [] => .ok []
      | [node] => .ok node.entries
      | nodes => do
          let gathered ← (nodes.flatMap Node.entries).foldlM place []
          (names gathered).forM fun name => agreeWithin depth gathered name
          return gathered

end

/-- A bound for the steps from the outside of a section to its inside. -/
def stepBound (entries : Section) : Nat := 4 * entries.depth + 4

/-- Adds a definition to a section. -/
def add (entries : Section) (entry : Key × Node) : Except Clash Section :=
  addWithin (stepBound (entry :: entries)) entries entry

/-- Makes sure that a header can come after longer ones. -/
def checkReopening (entries : Section) (entry : Key × Node) : Except Clash Unit :=
  reopenWithin (stepBound entries) entries entry

/-- Makes sure that the parts of a name go together. -/
def agree (entries : Section) (name : String) : Except Clash Unit :=
  agreeWithin (stepBound entries) entries name

/-- Makes sure that the parts of every name go together. -/
def agreeAll (entries : Section) : Except Clash Unit :=
  entries.names.forM entries.agree

/-- What the parts of a name define together. -/
def gatherNamed (entries : Section) (name : String) : Except Clash Section :=
  gatherNamedWithin (stepBound entries) entries name

/-- Adds a definition to a section, whose parts must then go together. -/
def addAgreeing (entries : Section) (entry : Key × Node) : Except Clash Section := do
  let more ← entries.add entry
  if hasNewPart entries more entry.1.name then
    more.agree entry.1.name
  return more

/-- Adds a value under a key inside a table in braces. -/
def addValue (entries : Section) (path : List String) (value : Value) : Except Clash Section :=
  match path with
  | [] => .ok entries
  | name :: rest => entries.addAgreeing (entryAt name rest (.value value))

/-- Adds a value under a key below a header. -/
def addValueInside
    (entries : Section)
    (path : List String)
    (value : Value) :
    Except Clash Section := do
  let more ← entries.addValue path value
  match path with
  | [] => return more
  | name :: _ =>
      let _ ← more.gatherNamed name
      return more

/-- Adds a table or an array of tables below a header. -/
def addInside (entries : Section) (name : String) (node : Node) : Except Clash Section := do
  let more ← entries.add (⟨name, false⟩, node)
  let _ ← more.gatherNamed name
  return more

/--
Adds a table that goes on an array of tables of its name, and makes an array of it and of a single
table before it.
-/
def addElementInside (entries : Section) (name : String) (element : Section) :
    Except Clash Section :=
  match entries.last? name with
  | none => .ok (entries ++ [(⟨name, false⟩, .table true element)])
  | some (_, .value _) => .error (.keyExists name)
  | some (_, .tables known) => .ok (entries.replaceLast name (.tables (known ++ [element])))
  | some (_, .table _ known) => .ok (entries.replaceAll name (.tables [known, element]))

mutual

/-- The value that a node stands for. The number bounds the depth. -/
def nodeValue : Nat → Node → Except Clash Value
  | _, .value value => .ok value
  | 0, _ => .ok .null
  | depth + 1, .table _ entries => return .table (← tableWithin depth entries)
  | depth + 1, .tables elements =>
      return .list (← elements.mapM fun entries => return .table (← tableWithin depth entries))

/-- The table that a section stands for. The number bounds the depth. -/
def tableWithin : Nat → Section → Except Clash Table
  | 0, _ => .ok []
  | depth + 1, entries =>
      (names entries).mapM fun name =>
        match named entries name with
        | [node] => return (name, ← nodeValue depth node)
        | _ => return (name, .table (← tableWithin depth (← entries.gatherNamed name)))

end

/-- The table that a section stands for. -/
def toTable (entries : Section) : Except Clash Table :=
  tableWithin (stepBound entries) entries

end BlockSync.Toml.Section
