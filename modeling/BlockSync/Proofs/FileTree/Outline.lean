import BlockSync.FileTree.Resolve

namespace BlockSync.FileNode

/-!
# Outlines

The outline of a tree is the tree without the bytes of its files.  Where a path leads, what it
resolves to, and which files are locked, is settled by the outline alone.
-/

mutual

/-- A tree with every file emptied. -/
def outline : FileNode → FileNode
  | .file _ isLocked => .file ByteArray.empty isLocked
  | .link target => .link target
  | .directory entries => .directory (outlineAmong entries)

/-- Entries with every file below them emptied. -/
def outlineAmong : List (String × FileNode) → List (String × FileNode)
  | [] => []
  | (name, node) :: others => (name, node.outline) :: outlineAmong others

end

/-- The entry with a name is the outline of the entry that had this name. -/
theorem lookup_outlineAmong
    (entries : List (String × FileNode))
    (name : String) :
    (outlineAmong entries).lookup name = (entries.lookup name).map outline := by
  induction entries with
  | nil =>
      rfl
  | cons entry others inductionHypothesis =>
      obtain ⟨other, node⟩ := entry
      rw [outlineAmong, List.lookup_cons, List.lookup_cons]
      split
      · rfl
      · exact inductionHypothesis

/-- The outline of a node has the outlines of its entries. -/
@[simp] theorem child?_outline
    (node : FileNode)
    (name : String) :
    node.outline.child? name = (node.child? name).map outline := by
  cases node with
  | file content isLocked =>
      rfl
  | link target =>
      rfl
  | directory entries =>
      exact lookup_outlineAmong entries name

/-- Names lead to the outline of what they led to. -/
@[simp] theorem at?_outline
    (tree : FileNode)
    (names : List String) :
    tree.outline.at? names = (tree.at? names).map outline := by
  induction names generalizing tree with
  | nil =>
      rfl
  | cons name rest inductionHypothesis =>
      rw [at?, at?, child?_outline]
      cases tree.child? name with
      | none =>
          rfl
      | some inner =>
          exact inductionHypothesis inner

mutual

/-- The links of a tree are those of its outline. -/
@[simp] theorem linkSteps_outline : (node : FileNode) →
    node.outline.linkSteps = node.linkSteps
  | .file .. => rfl
  | .link _ => rfl
  | .directory entries => by
      rw [outline, linkSteps, linkSteps, linkStepsAmong_outlineAmong entries]

/-- The links below entries are those below their outlines. -/
theorem linkStepsAmong_outlineAmong : (entries : List (String × FileNode)) →
    linkStepsAmong (outlineAmong entries) = linkStepsAmong entries
  | [] => rfl
  | (name, node) :: others => by
      rw [outlineAmong, linkStepsAmong, linkStepsAmong, linkSteps_outline node,
        linkStepsAmong_outlineAmong others]

end

/-- A place that is reached in the outline of a tree. -/
def outlined (found : List String × FileNode) : List String × FileNode :=
  (found.1, found.2.outline)

/-- Following names in the outline leads to the same place. -/
theorem follow_outline
    (tree : FileNode)
    (links steps : Nat)
    (reached rest : List String) :
    tree.outline.follow links steps reached rest =
      (tree.follow links steps reached rest).map outlined := by
  induction steps generalizing links reached rest with
  | zero =>
      rfl
  | succ steps inductionHypothesis =>
      rw [follow, follow, at?_outline]
      cases tree.at? reached with
      | none =>
          rfl
      | some node =>
          cases rest with
          | nil =>
              rfl
          | cons name rest =>
              cases node with
              | file content isLocked =>
                  rfl
              | link target =>
                  rfl
              | directory entries =>
                  simp only [Option.map_some, outline]
                  split
                  · exact inductionHypothesis _ _ _
                  · split
                    · rfl
                    · rw [show FileNode.directory (outlineAmong entries) =
                        (FileNode.directory entries).outline from rfl, child?_outline]
                      cases (FileNode.directory entries).child? name with
                      | none =>
                          rfl
                      | some inner =>
                          cases inner with
                          | file content isLocked =>
                              exact inductionHypothesis _ _ _
                          | link target =>
                              cases links with
                              | zero =>
                                  rfl
                              | succ links =>
                                  exact inductionHypothesis _ _ _
                          | directory inside =>
                              exact inductionHypothesis _ _ _

/-- A path leads to the same place in the outline. -/
theorem locate_outline
    (tree : FileNode)
    (path : FilePath) :
    tree.outline.locate path = (tree.locate path).map outlined := by
  rw [locate, locate, linkSteps_outline, follow_outline]

/-- A path leads to a directory in the outline exactly if it does in the tree. -/
@[simp] theorem isDirectory_outline
    (tree : FileNode)
    (path : FilePath) :
    tree.outline.isDirectory path = tree.isDirectory path := by
  rw [isDirectory, isDirectory, locate_outline]
  cases tree.locate path with
  | error kind =>
      rfl
  | ok found =>
      obtain ⟨names, node⟩ := found
      cases node <;> rfl

/-- Names are resolved alike in the outline. -/
@[simp] theorem resolveFrom_outline
    (tree : FileNode)
    (steps : Nat)
    (pending : List (List String))
    (path rest : List String) :
    tree.outline.resolveFrom steps pending path rest =
      tree.resolveFrom steps pending path rest := by
  induction steps generalizing pending path rest with
  | zero =>
      cases rest <;> rfl
  | succ steps inductionHypothesis =>
      cases rest with
      | nil =>
          rfl
      | cons name rest =>
          rw [resolveFrom, resolveFrom]
          simp only [at?_outline, inductionHypothesis]
          cases tree.at? (path ++ [name]) with
          | none =>
              rfl
          | some node =>
              cases node <;> rfl

/-- Paths are resolved alike in the outline. -/
@[simp] theorem resolve_outline
    (tree : FileNode)
    (path : FilePath) :
    tree.outline.resolve path = tree.resolve path := by
  rw [resolve, resolve, linkSteps_outline, resolveFrom_outline]
  split
  · rfl
  · split
    · rfl
    · next names stuck =>
      simp only [locate_outline]
      cases tree.locate ⟨"/", normalized names⟩ with
      | error kind =>
          cases kind <;> rfl
      | ok found =>
          rfl

/-- Trees with the same outline give a path the same place below a directory. -/
theorem relativePath_congr
    {tree other : FileNode}
    (same : tree.outline = other.outline)
    (path directory : FilePath) :
    tree.relativePath path directory = other.relativePath path directory := by
  have resolved : ∀ path, tree.resolve path = other.resolve path := by
    intro path
    rw [← resolve_outline, same, resolve_outline]
  rw [relativePath, relativePath, resolved, resolved]

end BlockSync.FileNode
