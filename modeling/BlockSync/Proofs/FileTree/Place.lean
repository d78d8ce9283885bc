import BlockSync.FileTree.Text
import BlockSync.Proofs.FileTree.Outline
import BlockSync.Proofs.Text.Utf8
import BlockSync.Proofs.Value.Keyed

namespace BlockSync.FileNode

/-!
# Files in their places

A path that leads to a file leads to a place, and different paths may lead to the same one.  Writing
a file changes the bytes in its place only, unless it is locked, which keeps them.  It does not
change the outline of the tree, so every path leads to where it led before.
-/

/-- The bytes of the file in a place that is reached without links. -/
def fileAt (tree : FileNode) (names : List String) : Option ByteArray :=
  match tree.at? names with
  | some (.file content _) => some content
  | _ => none

/-- The place of the file that a path leads to. -/
def place? (tree : FileNode) (path : FilePath) : Option (List String) :=
  match tree.locate path with
  | .ok (names, .file ..) => some names
  | _ => none

/-- The place of the file that a path leads to, if it can be written. -/
def openPlace? (tree : FileNode) (path : FilePath) : Option (List String) :=
  match tree.locate path with
  | .ok (names, .file _ false) => some names
  | _ => none

section Put

variable {name other : String} {entry new : FileNode} {entries : List (String × FileNode)}

/-- Entries are put under their names. -/
theorem isPut_putEntry : IsPut putEntry where
  nil _ _ :=
    rfl
  cons _ _ _ _ _ :=
    rfl

/-- Putting an entry with the outline of the old one keeps the outlines. -/
theorem outlineAmong_putEntry
    {old : FileNode}
    (present : entries.lookup name = some old)
    (same : entry.outline = old.outline) :
    outlineAmong (putEntry name entry entries) = outlineAmong entries := by
  induction entries with
  | nil =>
      cases present
  | cons first others inductionHypothesis =>
      obtain ⟨other, node⟩ := first
      rw [putEntry]
      by_cases isName : other = name
      · subst other
        obtain rfl : node = old := by
          simpa using present
        rw [if_pos rfl, outlineAmong, outlineAmong, same]
      · have apart : (name == other) = false := by
          simpa using Ne.symm isName
        rw [List.lookup_cons, apart] at present
        rw [if_neg isName, outlineAmong, outlineAmong, inductionHypothesis present]

/-- Anything that has entries at all is a directory. -/
theorem eq_directory_of_child?
    {node inner : FileNode}
    (present : node.child? name = some inner) :
    ∃ entries, node = .directory entries ∧ entries.lookup name = some inner := by
  cases node with
  | file content isLocked =>
      cases present
  | link target =>
      cases present
  | directory entries =>
      exact ⟨entries, rfl, present⟩

/-- Putting bytes in the place of a file keeps the outline of the tree. -/
theorem outline_put
    {tree : FileNode}
    {names : List String}
    {old : ByteArray}
    (present : tree.at? names = some (.file old))
    (content : ByteArray) :
    (put (.file content) names tree).outline = tree.outline := by
  induction names generalizing tree with
  | nil =>
      cases present
      rfl
  | cons name rest inductionHypothesis =>
      cases found : tree.child? name with
      | none =>
          simp [at?, found] at present
      | some inner =>
          have innerPresent : inner.at? rest = some (.file old) := by
            simpa [at?, found] using present
          obtain ⟨entries, rfl, lookup⟩ := eq_directory_of_child? found
          rw [put, found, Option.getD_some, outline, outline]
          exact congrArg FileNode.directory
            (outlineAmong_putEntry lookup (inductionHypothesis innerPresent))

/-- The bytes that were put in a place are found there. -/
theorem fileAt_put_self
    (tree : FileNode)
    (names : List String)
    (content : ByteArray) :
    (put (.file content) names tree).fileAt names = some content := by
  induction names generalizing tree with
  | nil =>
      rfl
  | cons name rest inductionHypothesis =>
      have inside := inductionHypothesis ((tree.child? name).getD emptyDirectory)
      have found :
          (put (.file content) (name :: rest) tree).child? name =
            some (put (.file content) rest ((tree.child? name).getD emptyDirectory)) :=
        (isPut_putEntry.lookup_eq_ite _ _ _ _).trans (if_pos rfl)
      simpa [fileAt, at?, found] using inside

/-- The bytes in every other place are as they were. -/
theorem fileAt_put_of_ne
    {tree : FileNode}
    {names others : List String}
    {old : ByteArray}
    (present : tree.fileAt names = some old)
    (different : others ≠ names)
    (content : ByteArray) :
    (put (.file content) names tree).fileAt others = tree.fileAt others := by
  induction names generalizing tree others with
  | nil =>
      cases tree with
      | file before isLocked =>
          cases others with
          | nil =>
              exact (different rfl).elim
          | cons other rest =>
              rfl
      | link target =>
          cases present
      | directory entries =>
          cases present
  | cons name rest inductionHypothesis =>
      cases found : tree.child? name with
      | none =>
          simp [fileAt, at?, found] at present
      | some inner =>
          have innerPresent : inner.fileAt rest = some old := by
            simpa [fileAt, at?, found] using present
          obtain ⟨entries, rfl, lookup⟩ := eq_directory_of_child? found
          cases others with
          | nil =>
              rfl
          | cons other further =>
              by_cases same : other = name
              · subst other
                have apart : further ≠ rest := fun equal => different (by rw [equal])
                have inside := inductionHypothesis innerPresent apart
                have nowFound :
                    (put (.file content) (name :: rest) (.directory entries)).child? name =
                      some (put (.file content) rest inner) := by
                  rw [put, found, Option.getD_some]
                  exact (isPut_putEntry.lookup_eq_ite _ _ _ _).trans (if_pos rfl)
                simpa [fileAt, at?, found, nowFound] using inside
              · have kept :
                    (put (.file content) (name :: rest) (.directory entries)).child? other =
                      (FileNode.directory entries).child? other :=
                  (isPut_putEntry.lookup_eq_ite _ _ _ _).trans (if_neg same)
                rw [fileAt, fileAt, at?, at?, kept]

end Put

section Paths

variable {tree other : FileNode} {path : FilePath} {names : List String}

/-- The place that names are followed to is one that they lead to without links. -/
theorem at?_of_follow
    {links steps : Nat}
    {reached rest : List String}
    {node : FileNode}
    (followed : tree.follow links steps reached rest = .ok (names, node)) :
    tree.at? names = some node := by
  induction steps generalizing links reached rest with
  | zero =>
      cases followed
  | succ steps inductionHypothesis =>
      rw [follow] at followed
      split at followed
      · cases followed
      · next here present =>
        split at followed
        · injection followed with same
          rw [Prod.mk.injEq] at same
          rw [← same.1, ← same.2]
          exact present
        · split at followed
          · split at followed
            · exact inductionHypothesis followed
            · split at followed
              · cases followed
              · split at followed
                · cases followed
                · split at followed
                  · cases followed
                  · exact inductionHypothesis followed
                · exact inductionHypothesis followed
          · cases followed

/-- A path that leads to a file leads to its place. -/
theorem place?_eq_some_iff :
    tree.place? path = some names ↔
      ∃ content isLocked, tree.locate path = .ok (names, .file content isLocked) := by
  rw [place?]
  constructor
  · intro isPlace
    split at isPlace
    · next found content isLocked located =>
      cases isPlace
      exact ⟨content, isLocked, located⟩
    · cases isPlace
  · rintro ⟨content, isLocked, located⟩
    rw [located]

/-- A path that leads to a file that can be written leads to its place. -/
theorem openPlace?_eq_some_iff :
    tree.openPlace? path = some names ↔
      ∃ content, tree.locate path = .ok (names, .file content) := by
  rw [openPlace?]
  constructor
  · intro isPlace
    split at isPlace
    · next found content located =>
      cases isPlace
      exact ⟨content, located⟩
    · cases isPlace
  · rintro ⟨content, located⟩
    rw [located]

/-- The place of a file that can be written is one of a file. -/
theorem place?_of_openPlace?
    (isOpen : tree.openPlace? path = some names) :
    tree.place? path = some names := by
  obtain ⟨content, located⟩ := openPlace?_eq_some_iff.mp isOpen
  exact place?_eq_some_iff.mpr ⟨content, false, located⟩

/-- There is a file in the place that a path leads to. -/
theorem exists_fileAt
    (isPlace : tree.place? path = some names) :
    ∃ content isLocked,
      tree.fileAt names = some content ∧
        tree.locate path = .ok (names, .file content isLocked) := by
  obtain ⟨content, isLocked, located⟩ := place?_eq_some_iff.mp isPlace
  refine ⟨content, isLocked, ?_, located⟩
  rw [fileAt, at?_of_follow located]

/-- The outline has its files in the same places. -/
@[simp] theorem place?_outline
    (tree : FileNode)
    (path : FilePath) :
    tree.outline.place? path = tree.place? path := by
  rw [place?, place?, locate_outline]
  cases tree.locate path with
  | error kind =>
      rfl
  | ok found =>
      obtain ⟨names, node⟩ := found
      cases node <;> rfl

/-- Trees with the same outline have their files in the same places. -/
theorem place?_congr
    (same : tree.outline = other.outline)
    (path : FilePath) :
    tree.place? path = other.place? path := by
  rw [← place?_outline, same, place?_outline]

/-- The outline has the files that can be written in the same places. -/
@[simp] theorem openPlace?_outline
    (tree : FileNode)
    (path : FilePath) :
    tree.outline.openPlace? path = tree.openPlace? path := by
  rw [openPlace?, openPlace?, locate_outline]
  cases tree.locate path with
  | error kind =>
      rfl
  | ok found =>
      obtain ⟨names, node⟩ := found
      rcases node with ⟨content, _ | _⟩ | _ | _ <;> rfl

/-- Trees with the same outline have the files that can be written in the same places. -/
theorem openPlace?_congr
    (same : tree.outline = other.outline)
    (path : FilePath) :
    tree.openPlace? path = other.openPlace? path := by
  rw [← openPlace?_outline, same, openPlace?_outline]

/-- What is in no place of a file is in none of a file without bytes either. -/
private theorem read_outline
    (noPlace : tree.place? path = none) :
    tree.outline.read path = tree.read path := by
  rw [read, read, locate_outline]
  rw [place?] at noPlace
  cases located : tree.locate path with
  | error kind =>
      rfl
  | ok found =>
      obtain ⟨names, node⟩ := found
      cases node with
      | file content isLocked =>
          rw [located] at noPlace
          cases noPlace
      | link target =>
          rfl
      | directory entries =>
          rfl

/-- Trees with the same outline and the same bytes in the place of a path are read alike there. -/
theorem read_congr_of_place
    (sameOutline : tree.outline = other.outline)
    (sameFile : ∀ names, tree.place? path = some names → tree.fileAt names = other.fileAt names) :
    tree.read path = other.read path := by
  cases isPlace : tree.place? path with
  | some names =>
      obtain ⟨content, _, present, located⟩ := exists_fileAt isPlace
      have samePlace := isPlace
      rw [place?_congr sameOutline] at samePlace
      obtain ⟨otherContent, _, otherPresent, otherLocated⟩ := exists_fileAt samePlace
      obtain rfl : content = otherContent := by
        rw [sameFile names isPlace, otherPresent, Option.some.injEq] at present
        exact present.symm
      rw [read, read, located, otherLocated]
  | none =>
      have otherPlace := isPlace
      rw [place?_congr sameOutline] at otherPlace
      rw [← read_outline isPlace, sameOutline, read_outline otherPlace]

/-- Trees with the same outline and the same bytes in all places are read alike. -/
theorem read_congr
    (sameOutline : tree.outline = other.outline)
    (sameFiles : ∀ names, tree.fileAt names = other.fileAt names)
    (path : FilePath) :
    tree.read path = other.read path :=
  read_congr_of_place sameOutline fun names _ => sameFiles names

/-- A file is written in its place, if it can be written. -/
theorem write_of_openPlace?
    (isOpen : tree.openPlace? path = some names)
    (content : ByteArray) :
    tree.write path content = .ok (put (.file content) names tree) := by
  obtain ⟨old, located⟩ := openPlace?_eq_some_iff.mp isOpen
  rw [write, located]

/-- A file that cannot be written refuses it. -/
theorem write_of_openPlace?_eq_none
    (notOpen : tree.openPlace? path = none)
    (content : ByteArray) :
    ∃ error, tree.write path content = .error error := by
  rw [openPlace?] at notOpen
  rw [write]
  cases located : tree.locate path with
  | error kind =>
      exact ⟨_, rfl⟩
  | ok found =>
      obtain ⟨names, node⟩ := found
      rcases node with ⟨old, _ | _⟩ | _ | _
      · rw [located] at notOpen
        cases notOpen
      all_goals exact ⟨_, rfl⟩

/-- Writing a file keeps the outline of the tree. -/
theorem outline_put_openPlace?
    (isOpen : tree.openPlace? path = some names)
    (content : ByteArray) :
    (put (.file content) names tree).outline = tree.outline := by
  obtain ⟨old, located⟩ := openPlace?_eq_some_iff.mp isOpen
  exact outline_put (at?_of_follow located) content

/-- The text of a file is that of the bytes in its place. -/
theorem readText_of_place?
    {content : ByteArray}
    (isPlace : tree.place? path = some names)
    (present : tree.fileAt names = some content) :
    tree.readText path = (Text.decode content).mapError .undecodable := by
  obtain ⟨same, _, samePresent, located⟩ := exists_fileAt isPlace
  rw [present, Option.some.injEq] at samePresent
  subst same
  rw [readText, read, located]
  rfl

/-- What is in no place of a file is not read. -/
theorem readText_of_place?_eq_none
    (noPlace : tree.place? path = none) :
    ∃ error, tree.readText path = .error error := by
  rw [place?] at noPlace
  rw [readText, read]
  split at noPlace
  · cases noPlace
  · next notFile =>
    cases located : tree.locate path with
    | error kind =>
        exact ⟨_, rfl⟩
    | ok found =>
        obtain ⟨names, node⟩ := found
        cases node with
        | file content isLocked =>
            exact (notFile names content isLocked located).elim
        | link target =>
            exact ⟨_, rfl⟩
        | directory entries =>
            exact ⟨_, rfl⟩

/-- A text that was written to a file is read back from it. -/
theorem readText_of_writeText
    {later : FileNode}
    {text : String}
    (written : tree.writeText path text = .ok later) :
    later.readText path = .ok text := by
  rw [writeText] at written
  cases isOpen : tree.openPlace? path with
  | none =>
      obtain ⟨error, refused⟩ := write_of_openPlace?_eq_none isOpen (Text.encode text)
      rw [refused] at written
      cases written
  | some names =>
      rw [write_of_openPlace? isOpen, Except.ok.injEq] at written
      subst written
      have samePlace :=
        (place?_congr (outline_put_openPlace? isOpen (Text.encode text)) path).trans
          (place?_of_openPlace? isOpen)
      rw [readText_of_place? samePlace (fileAt_put_self tree names _), Text.decode_encode]
      rfl

end Paths

end BlockSync.FileNode
