import BlockSync.FileTree.Resolve
import BlockSync.Proofs.Value.Keyed

namespace BlockSync.FileNode

/-!
# Trees with the same entries

A directory lists its entries in some order.  Two trees in which the same names lead to the same
things differ in that order at most, if no directory has two entries of one name, and then every
path leads to the same place in both of them, and resolves to the same path.
-/

/-- What holds of files and links, and of a directory if it does of its entries, holds of all. -/
@[elab_as_elim]
theorem induction
    {holds : FileNode → Prop}
    (file : ∀ content isLocked, holds (.file content isLocked))
    (link : ∀ target, holds (.link target))
    (directory : ∀ entries, (∀ entry ∈ entries, holds entry.2) → holds (.directory entries)) :
    ∀ node, holds node
  | .file content isLocked => file content isLocked
  | .link target => link target
  | .directory entries =>
      directory entries fun entry _ => induction file link directory entry.2
  decreasing_by
    next member =>
    have below := List.sizeOf_lt_of_mem member
    cases entry
    simp at below ⊢
    omega

/-- Whether no directory of a tree has two entries of one name. -/
def Distinct (tree : FileNode) : Prop :=
  ∀ names entries, tree.at? names = some (.directory entries) → (entries.map (·.1)).Nodup

/-- Whether two trees have the same thing in a place, apart from the entries of a directory. -/
inductive SameKind : Option FileNode → Option FileNode → Prop where
  | nothing : SameKind none none
  | file (content : ByteArray) (isLocked : Bool) :
      SameKind (some (.file content isLocked)) (some (.file content isLocked))
  | link (target : String) : SameKind (some (.link target)) (some (.link target))
  | directory (entries others : List (String × FileNode)) :
      SameKind (some (.directory entries)) (some (.directory others))

/-- Whether the same names lead to the same things in two trees. -/
def Alike (tree other : FileNode) : Prop :=
  ∀ names, SameKind (tree.at? names) (other.at? names)

/-- Names lead on from where the names in front of them lead. -/
theorem at?_append
    (tree : FileNode)
    (names others : List String) :
    tree.at? (names ++ others) = (tree.at? names).bind (·.at? others) := by
  induction names generalizing tree with
  | nil =>
      rfl
  | cons name names inductionHypothesis =>
      rw [List.cons_append, at?, at?]
      cases tree.child? name with
      | none =>
          rfl
      | some inner =>
          exact inductionHypothesis inner

/-- A name leads to the entry that has it. -/
theorem at?_singleton
    (tree : FileNode)
    (name : String) :
    tree.at? [name] = tree.child? name := by
  rw [at?]
  cases tree.child? name <;> rfl

section Distinct

variable {tree node : FileNode} {names : List String} {entries : List (String × FileNode)}

/-- The names below a node are distinct if all names are. -/
theorem Distinct.of_at?
    (distinct : tree.Distinct)
    (here : tree.at? names = some node) :
    node.Distinct := by
  intro others entries there
  apply distinct (names ++ others) entries
  rw [at?_append, here, Option.bind_some, there]

/-- The names of the entries of a directory are distinct. -/
theorem Distinct.nodup (distinct : (FileNode.directory entries).Distinct) :
    (entries.map (·.1)).Nodup :=
  distinct [] entries rfl

/-- With distinct names, an entry is found under its name. -/
theorem Distinct.child?_eq_some_iff
    (distinct : (FileNode.directory entries).Distinct)
    {name : String} :
    (FileNode.directory entries).child? name = some node ↔ (name, node) ∈ entries :=
  lookup_eq_some_iff_mem distinct.nodup

/-- The names below an entry are distinct if all names are. -/
theorem Distinct.of_mem
    (distinct : (FileNode.directory entries).Distinct)
    {entry : String × FileNode}
    (member : entry ∈ entries) :
    entry.2.Distinct := by
  have here : (FileNode.directory entries).at? [entry.1] = some entry.2 := by
    rw [at?_singleton]
    exact distinct.child?_eq_some_iff.mpr member
  exact distinct.of_at? here

/-- A file has no entries to be told apart. -/
theorem distinct_file
    (content : ByteArray)
    (isLocked : Bool) :
    (FileNode.file content isLocked).Distinct := by
  intro names entries here
  cases names <;> cases here

/-- A link has no entries to be told apart. -/
theorem distinct_link (target : String) : (FileNode.link target).Distinct := by
  intro names entries here
  cases names <;> cases here

/-- The names in a directory are distinct if those of its entries are, and those below each. -/
theorem distinct_directory
    (nodup : (entries.map (·.1)).Nodup)
    (below : ∀ entry ∈ entries, entry.2.Distinct) :
    (FileNode.directory entries).Distinct := by
  intro names others here
  cases names with
  | nil =>
      cases here
      exact nodup
  | cons name names =>
      obtain ⟨inner, isEntry, there⟩ := Option.bind_eq_some_iff.mp here
      exact below (name, inner) ((lookup_eq_some_iff_mem nodup).mp isEntry) names others there

end Distinct

/-- A place has the same thing as itself. -/
theorem SameKind.refl : ∀ found : Option FileNode, SameKind found found
  | none => .nothing
  | some (.file content isLocked) => .file content isLocked
  | some (.link target) => .link target
  | some (.directory entries) => .directory entries entries

/-- Two places have the same thing whichever comes first. -/
theorem SameKind.symm
    {found other : Option FileNode}
    (same : SameKind found other) :
    SameKind other found := by
  cases same <;> constructor

/-- Where there is something in one place, there is in the other. -/
theorem SameKind.exists_eq_some
    {node : FileNode}
    {other : Option FileNode}
    (same : SameKind (some node) other) :
    ∃ there, other = some there := by
  cases same <;> exact ⟨_, rfl⟩

namespace Alike

variable {tree other node : FileNode} {names : List String}

/-- Trees are alike whichever comes first. -/
theorem symm (alike : tree.Alike other) : other.Alike tree :=
  fun names => (alike names).symm

/-- Where names lead in two trees that are alike, there are nodes that are alike. -/
theorem exists_at?
    (alike : tree.Alike other)
    (here : tree.at? names = some node) :
    ∃ there, other.at? names = some there ∧ node.Alike there := by
  obtain ⟨there, isThere⟩ : ∃ there, other.at? names = some there :=
    (here ▸ alike names).exists_eq_some
  refine ⟨there, isThere, fun others => ?_⟩
  have below := alike (names ++ others)
  rwa [at?_append, at?_append, here, isThere] at below

/-- What is like a directory is a directory. -/
theorem exists_entries
    {entries : List (String × FileNode)}
    (alike : (FileNode.directory entries).Alike other) :
    ∃ others, other = .directory others := by
  have same : SameKind (some (.directory entries)) (some other) := alike []
  cases same
  exact ⟨_, rfl⟩

/-- The entries of one name in directories that are alike are alike. -/
theorem exists_child?
    (alike : tree.Alike other)
    {name : String}
    (here : tree.child? name = some node) :
    ∃ there, other.child? name = some there ∧ node.Alike there := by
  rw [← at?_singleton] at here
  obtain ⟨there, isThere, alikeBelow⟩ := alike.exists_at? here
  rw [at?_singleton] at isThere
  exact ⟨there, isThere, alikeBelow⟩

/-- An entry of a directory has one that is like it in a directory that is alike. -/
theorem exists_mem
    {entries others : List (String × FileNode)}
    (alike : (FileNode.directory entries).Alike (.directory others))
    (distinct : (FileNode.directory entries).Distinct)
    (otherDistinct : (FileNode.directory others).Distinct)
    {entry : String × FileNode}
    (member : entry ∈ entries) :
    ∃ there, (entry.1, there) ∈ others ∧ entry.2.Alike there := by
  obtain ⟨there, isThere, alikeBelow⟩ :=
    alike.exists_child? (distinct.child?_eq_some_iff.mpr member)
  exact ⟨there, otherDistinct.child?_eq_some_iff.mp isThere, alikeBelow⟩

/-- Directories with the same entries in any order are alike. -/
theorem of_perm
    {entries others : List (String × FileNode)}
    (distinct : (entries.map (·.1)).Nodup)
    (reordered : entries.Perm others) :
    (FileNode.directory entries).Alike (.directory others) := by
  have sameEntries : ∀ name, entries.lookup name = others.lookup name := by
    intro name
    have otherDistinct : (others.map (·.1)).Nodup :=
      (reordered.map _).nodup_iff.mp distinct
    apply Option.ext
    intro node
    rw [lookup_eq_some_iff_mem distinct, lookup_eq_some_iff_mem otherDistinct]
    exact reordered.mem_iff
  intro names
  cases names with
  | nil =>
      exact .directory entries others
  | cons name names =>
      have sameNode :
          (FileNode.directory entries).at? (name :: names) =
            (FileNode.directory others).at? (name :: names) := by
        simp only [at?, child?, FileNode.entries, sameEntries]
      rw [sameNode]
      exact .refl _

end Alike

/-- The name of an entry, with the number of steps of the links below it. -/
def counts (entry : String × FileNode) : String × Nat :=
  (entry.1, entry.2.linkSteps)

/-- With distinct names, no entry is counted twice. -/
theorem nodup_counts
    {entries : List (String × FileNode)}
    (distinct : (FileNode.directory entries).Distinct) :
    (entries.map counts).Nodup := by
  apply List.Nodup.of_map (·.1)
  rw [List.map_map]
  exact distinct.nodup

/-- The number of steps of all links below some entries is added up over the entries. -/
theorem linkStepsAmong_eq (entries : List (String × FileNode)) :
    linkStepsAmong entries = (entries.map counts).foldr (fun count total => count.2 + total) 0 := by
  induction entries with
  | nil =>
      rfl
  | cons entry others inductionHypothesis =>
      obtain ⟨name, node⟩ := entry
      rw [linkStepsAmong, inductionHypothesis]
      rfl

/-- Directories that are alike have the same counts if entries that are alike have. -/
theorem perm_counts
    {entries others : List (String × FileNode)}
    (distinct : (FileNode.directory entries).Distinct)
    (otherDistinct : (FileNode.directory others).Distinct)
    (alike : (FileNode.directory entries).Alike (.directory others))
    (sameSteps : ∀ entry ∈ entries, ∀ there, (entry.1, there) ∈ others →
      entry.2.Alike there → entry.2.linkSteps = there.linkSteps) :
    (entries.map counts).Perm (others.map counts) := by
  apply (List.perm_ext_iff_of_nodup (nodup_counts distinct) (nodup_counts otherDistinct)).mpr
  intro count
  rw [List.mem_map, List.mem_map]
  constructor
  · rintro ⟨entry, member, rfl⟩
    obtain ⟨there, memberThere, alikeBelow⟩ := alike.exists_mem distinct otherDistinct member
    refine ⟨(entry.1, there), memberThere, ?_⟩
    rw [counts, counts, sameSteps entry member there memberThere alikeBelow]
  · rintro ⟨entry, member, rfl⟩
    obtain ⟨node, memberHere, alikeBelow⟩ :=
      alike.symm.exists_mem otherDistinct distinct member
    refine ⟨(entry.1, node), memberHere, ?_⟩
    rw [counts, counts, sameSteps (entry.1, node) memberHere entry.2 member alikeBelow.symm]

/-- Trees that are alike have the same links. -/
theorem linkSteps_congr
    {tree other : FileNode}
    (distinct : tree.Distinct)
    (otherDistinct : other.Distinct)
    (alike : tree.Alike other) :
    tree.linkSteps = other.linkSteps := by
  induction tree using induction generalizing other with
  | file content isLocked =>
      have same : SameKind (some (.file content isLocked)) (some other) := alike []
      cases same
      rfl
  | link target =>
      have same : SameKind (some (.link target)) (some other) := alike []
      cases same
      rfl
  | directory entries inductionHypothesis =>
      obtain ⟨others, rfl⟩ := alike.exists_entries
      have counted : (entries.map counts).Perm (others.map counts) :=
        perm_counts distinct otherDistinct alike fun entry member there memberThere alikeBelow =>
          inductionHypothesis entry member (distinct.of_mem member)
            (otherDistinct.of_mem memberThere) alikeBelow
      rw [linkSteps, linkSteps, linkStepsAmong_eq, linkStepsAmong_eq]
      exact
        counted.foldr_eq' (fun first _ second _ total => Nat.add_left_comm second.2 first.2 total) 0

/-- Whether following names in two trees comes to the same end. -/
inductive SameEnd :
    Except FileErrorKind (List String × FileNode) →
      Except FileErrorKind (List String × FileNode) → Prop where
  | failed (kind : FileErrorKind) :
      SameEnd (.error kind) (.error kind)
  | reached (names : List String) (node other : FileNode) :
      SameKind (some node) (some other) → SameEnd (.ok (names, node)) (.ok (names, other))

/-- Following names in trees that are alike comes to the same end. -/
theorem follow_congr
    {tree other : FileNode}
    (alike : tree.Alike other)
    (links steps : Nat)
    (reached rest : List String) :
    SameEnd (tree.follow links steps reached rest) (other.follow links steps reached rest) := by
  induction steps generalizing links reached rest with
  | zero =>
      exact .failed .tooManyLinks
  | succ steps inductionHypothesis =>
      rw [follow, follow]
      have here := alike reached
      have child : ∀ name,
          SameKind ((tree.at? reached).bind (·.child? name))
            ((other.at? reached).bind (·.child? name)) := by
        intro name
        have below := alike (reached ++ [name])
        simpa only [at?_append, at?_singleton] using below
      revert here child
      generalize tree.at? reached = found
      generalize other.at? reached = otherFound
      rintro here child
      cases here with
      | nothing =>
          exact .failed .missing
      | file content isLocked =>
          cases rest with
          | nil =>
              exact .reached _ _ _ (.file content isLocked)
          | cons name rest =>
              exact .failed .notDirectory
      | link target =>
          cases rest with
          | nil =>
              exact .reached _ _ _ (.link target)
          | cons name rest =>
              exact .failed .notDirectory
      | directory entries others =>
          cases rest with
          | nil =>
              exact .reached _ _ _ (.directory entries others)
          | cons name rest =>
              dsimp only
              split
              · exact inductionHypothesis _ _ _
              · split
                · exact .failed .nameTooLong
                · have same := child name
                  rw [Option.bind_some, Option.bind_some] at same
                  revert same
                  generalize (FileNode.directory entries).child? name = inner
                  generalize (FileNode.directory others).child? name = otherInner
                  intro same
                  cases same with
                  | nothing =>
                      exact .failed .missing
                  | file content isLocked =>
                      exact inductionHypothesis _ _ _
                  | link target =>
                      cases links with
                      | zero =>
                          exact .failed .tooManyLinks
                      | succ links =>
                          exact inductionHypothesis _ _ _
                  | directory inside otherInside =>
                      exact inductionHypothesis _ _ _

section Congr

variable
  {tree other : FileNode}
  (distinct : tree.Distinct)
  (otherDistinct : other.Distinct)
  (alike : tree.Alike other)

include distinct otherDistinct alike

/-- A path leads to the same end in trees that are alike. -/
theorem locate_congr (path : FilePath) : SameEnd (tree.locate path) (other.locate path) := by
  rw [locate, locate, linkSteps_congr distinct otherDistinct alike]
  exact follow_congr alike _ _ _ _

/-- A path leads to a directory in both of two trees that are alike, or in neither. -/
theorem isDirectory_congr (path : FilePath) : tree.isDirectory path = other.isDirectory path := by
  have same := locate_congr distinct otherDistinct alike path
  rw [isDirectory, isDirectory]
  revert same
  generalize tree.locate path = found
  generalize other.locate path = otherFound
  intro same
  cases same with
  | failed kind =>
      rfl
  | reached names node other sameKind =>
      cases sameKind <;> rfl

omit distinct otherDistinct in
/-- Names are resolved alike in trees that are alike. -/
theorem resolveFrom_congr
    (steps : Nat)
    (pending : List (List String))
    (path rest : List String) :
    tree.resolveFrom steps pending path rest = other.resolveFrom steps pending path rest := by
  induction steps generalizing pending path rest with
  | zero =>
      cases rest <;> rfl
  | succ steps inductionHypothesis =>
      cases rest with
      | nil =>
          rfl
      | cons name rest =>
          rw [resolveFrom, resolveFrom]
          simp only [inductionHypothesis]
          have same := alike (path ++ [name])
          revert same
          generalize tree.at? (path ++ [name]) = found
          generalize other.at? (path ++ [name]) = otherFound
          intro same
          cases same <;> rfl

/-- A path resolves to the same path in trees that are alike. -/
theorem resolve_congr (path : FilePath) : tree.resolve path = other.resolve path := by
  rw [resolve, resolve, linkSteps_congr distinct otherDistinct alike, resolveFrom_congr alike]
  split
  · rfl
  · split
    · rfl
    · next names stuck =>
      have same := locate_congr distinct otherDistinct alike ⟨"/", normalized names⟩
      dsimp only
      revert same
      generalize tree.locate ⟨"/", normalized names⟩ = found
      generalize other.locate ⟨"/", normalized names⟩ = otherFound
      intro same
      cases same <;> rfl

end Congr

end BlockSync.FileNode
