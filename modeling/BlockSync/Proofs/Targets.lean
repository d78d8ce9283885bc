import BlockSync.Proofs.FileTree.Alike
import BlockSync.Proofs.FileTree.PathOrder
import BlockSync.Proofs.Glob.Filter
import BlockSync.Targets

namespace BlockSync

/-!
# Which files are found

Directories that are excluded are not looked into.  What is found is nevertheless told by a plain
filter over all paths below the root: a file is found if it is included and not excluded and no
directory on the way to it is excluded.  The order in which directories list their entries does not
matter, and neither does what is said of a file below an excluded directory.
-/

/--
Whether something in a place counts as a file: it is one, or it is a link that does not lead to a
directory.
-/
def FileNode.CountsAsFile (leadsToDirectory : Bool) : Option FileNode → Prop
  | some (.file ..) => True
  | some (.link _) => leadsToDirectory = false
  | some (.directory _) => False
  | none => False

namespace Targets

section Walk

variable (included excluded : List Char → Bool) (directory : List String → Bool)

/-- The wanted files below some entries are those below each of them. -/
theorem among_eq_flatMap
    (names : List String)
    (entries : List (String × FileNode)) :
    among included excluded directory names entries =
      entries.flatMap fun entry =>
        below included excluded directory (entry.1 :: names) entry.2 := by
  induction entries with
  | nil =>
      rfl
  | cons entry others inductionHypothesis =>
      obtain ⟨name, node⟩ := entry
      rw [among, inductionHypothesis, List.flatMap_cons]

/-- What it takes to find a file at the end of some names from a node that others lead to. -/
structure IsFound (node : FileNode) (names rest : List String) : Prop where
  isFile :
    FileNode.CountsAsFile (directory (names ++ rest)) (node.at? rest)
  wanted :
    isWanted included excluded (names ++ rest) = true
  entered :
    ∀ above below, rest = above ++ below → below ≠ [] → names ++ above ≠ [] →
      isEntered excluded (names ++ above) = true

variable {included excluded directory}

/-- Nothing is found at a node without entries but the node itself. -/
theorem isFound_leaf_iff
    (node : FileNode)
    {names rest : List String}
    (childless : ∀ name, node.child? name = none) :
    IsFound included excluded directory node names rest ↔
      rest = [] ∧
        FileNode.CountsAsFile (directory names) (some node) ∧
        isWanted included excluded names = true := by
  constructor
  · rintro ⟨isFile, wanted, _⟩
    cases rest with
    | nil =>
        rw [List.append_nil] at isFile wanted
        exact ⟨rfl, isFile, wanted⟩
    | cons name others =>
        rw [FileNode.at?, childless name] at isFile
        exact isFile.elim
  · rintro ⟨rfl, isFile, wanted⟩
    refine ⟨by rwa [List.append_nil], by rwa [List.append_nil], ?_⟩
    intro above below shape nonempty
    exact (nonempty (List.append_eq_nil_iff.mp shape.symm).2).elim

/-- A file is found below a directory if it is below one of its entries and the way is entered. -/
theorem isFound_directory_iff
    {entries : List (String × FileNode)}
    {names rest : List String}
    (distinct : (FileNode.directory entries).Distinct) :
    IsFound included excluded directory (.directory entries) names rest ↔
      (names = [] ∨ isEntered excluded names = true) ∧
        ∃ entry ∈ entries, ∃ others,
          rest = entry.1 :: others ∧
            IsFound included excluded directory entry.2 (names ++ [entry.1]) others := by
  constructor
  · rintro ⟨isFile, wanted, entered⟩
    cases rest with
    | nil =>
        exact isFile.elim
    | cons name others =>
        constructor
        · by_cases empty : names = []
          · exact .inl empty
          · have here := entered [] (name :: others) rfl (List.cons_ne_nil name others)
            rw [List.append_nil] at here
            exact .inr (here empty)
        · rw [FileNode.at?] at isFile
          cases isEntry : (FileNode.directory entries).child? name with
          | none =>
              rw [isEntry] at isFile
              exact isFile.elim
          | some inner =>
              rw [isEntry, Option.bind_some] at isFile
              refine
                ⟨(name, inner), distinct.child?_eq_some_iff.mp isEntry, others, rfl, ?_, ?_, ?_⟩
              · rwa [List.append_assoc]
              · rwa [List.append_assoc]
              · rintro above below rfl nonempty _
                have here := entered (name :: above) below rfl nonempty (by simp)
                rwa [List.append_assoc]
  · rintro ⟨here, ⟨name, inner⟩, member, others, rfl, isFile, wanted, entered⟩
    rw [List.append_assoc] at isFile wanted
    refine ⟨?_, wanted, ?_⟩
    · rwa [FileNode.at?, distinct.child?_eq_some_iff.mpr member]
    · intro above below shape nonempty notRoot
      cases above with
      | nil =>
          rw [List.append_nil] at notRoot ⊢
          exact here.resolve_left notRoot
      | cons first above =>
          obtain ⟨rfl, rfl⟩ := List.cons.inj shape
          have later := entered above below rfl nonempty (by simp)
          rwa [List.append_assoc] at later

/-- The wanted files below a node are those that the filter finds. -/
theorem mem_below_iff
    {node : FileNode}
    (distinct : node.Distinct)
    {names path : List String} :
    path ∈ below included excluded directory names node ↔
      ∃ rest,
        path = names.reverse ++ rest ∧
          IsFound included excluded directory node names.reverse rest := by
  induction node using FileNode.induction generalizing names with
  | file content isLocked =>
      rw [below]
      simp only [isFound_leaf_iff (.file content isLocked) fun _ => rfl, FileNode.CountsAsFile]
      split <;> simp [*]
  | link target =>
      rw [below]
      simp only [isFound_leaf_iff (.link target) fun _ => rfl, FileNode.CountsAsFile]
      split
      · simp [*]
      · split <;> simp [*]
  | directory entries inductionHypothesis =>
      have entered :
          (names.isEmpty || isEntered excluded names.reverse) = true ↔
            names.reverse = [] ∨ isEntered excluded names.reverse = true := by
        simp
      have inEntry : ∀ entry ∈ entries,
          (path ∈ below included excluded directory (entry.1 :: names) entry.2 ↔
            ∃ others,
              path = names.reverse ++ entry.1 :: others ∧
                IsFound included excluded directory entry.2 (names.reverse ++ [entry.1])
                  others) := by
        intro entry member
        have inside :=
          @inductionHypothesis entry member (distinct.of_mem member) (entry.1 :: names)
        simpa using inside
      rw [below]
      simp only [isFound_directory_iff distinct]
      split
      · next isEntered =>
        rw [among_eq_flatMap, List.mem_flatMap]
        constructor
        · rintro ⟨entry, member, inside⟩
          obtain ⟨others, shape, isFound⟩ := (inEntry entry member).mp inside
          exact ⟨_, shape, entered.mp isEntered, entry, member, others, rfl, isFound⟩
        · rintro ⟨_, shape, _, entry, member, others, rfl, isFound⟩
          exact ⟨entry, member, (inEntry entry member).mpr ⟨others, shape, isFound⟩⟩
      · next notEntered =>
        constructor
        · intro member
          cases member
        · rintro ⟨_, _, isEntered, _⟩
          exact (notEntered (entered.mpr isEntered)).elim

/-- What is found below a node starts with the names that lead to it. -/
theorem prefix_of_mem_below
    {node : FileNode}
    (distinct : node.Distinct)
    {names path : List String}
    (member : path ∈ below included excluded directory names node) :
    names.reverse <+: path := by
  obtain ⟨rest, rfl, _⟩ := (mem_below_iff distinct).mp member
  exact List.prefix_append names.reverse rest

/-- No wanted file is found twice below a node. -/
theorem nodup_below
    {node : FileNode}
    (distinct : node.Distinct)
    (names : List String) :
    (below included excluded directory names node).Nodup := by
  induction node using FileNode.induction generalizing names with
  | file content =>
      rw [below]
      split
      · exact List.nodup_singleton _
      · exact List.nodup_nil
  | link target =>
      rw [below]
      split
      · exact List.nodup_nil
      · split
        · exact List.nodup_singleton _
        · exact List.nodup_nil
  | directory entries inductionHypothesis =>
      rw [below]
      split
      · rw [among_eq_flatMap, List.nodup_flatMap]
        refine ⟨fun entry member => inductionHypothesis entry member (distinct.of_mem member) _, ?_⟩
        refine (List.pairwise_map.mp distinct.nodup).imp_of_mem ?_
        rintro first second isFirst isSecond different path inFirst inSecond
        have afterFirst := prefix_of_mem_below (distinct.of_mem isFirst) inFirst
        have afterSecond := prefix_of_mem_below (distinct.of_mem isSecond) inSecond
        -- Both names stand in the same place of the path.
        have sameNames : (first.1 :: names).reverse = (second.1 :: names).reverse :=
          (List.prefix_of_prefix_length_le afterFirst afterSecond (by simp)).eq_of_length (by simp)
        exact different (List.cons.inj (List.reverse_injective sameNames)).1
      · exact List.nodup_nil

end Walk

/-- What it takes to be a target, given the names that lead to a file from the root. -/
structure IsTarget
    (tree : FileNode)
    (root : FilePath)
    (included excluded : List Char → Bool)
    (names : List String) : Prop where
  below :
    names ≠ []
  isFile :
    FileNode.CountsAsFile (tree.isDirectory ⟨root.root, root.names ++ names⟩)
      (tree.at? (root.names ++ names))
  isIncluded :
    included (relative names) = true
  notExcluded :
    excluded (relative names) = false
  entered :
    ∀ above, above ≠ [] → above <+: names → above ≠ names →
      excluded (relative above ++ ['/']) = false

variable {tree : FileNode} {root : FilePath} {included excluded : List Char → Bool}

/-- A file is found from a directory exactly if it is a target. -/
theorem isFound_iff_isTarget
    {entries : List (String × FileNode)}
    (here : tree.at? root.names = some (.directory entries))
    {names : List String} :
    IsFound included excluded (fun names => tree.isDirectory ⟨root.root, root.names ++ names⟩)
        (.directory entries) [] names ↔
      IsTarget tree root included excluded names := by
  have there : tree.at? (root.names ++ names) = (FileNode.directory entries).at? names := by
    rw [FileNode.at?_append, here, Option.bind_some]
  constructor
  · rintro ⟨isFile, wanted, entered⟩
    rw [isWanted, Bool.and_eq_true, Bool.not_eq_true'] at wanted
    refine ⟨?_, there ▸ isFile, wanted.2, wanted.1, ?_⟩
    · rintro rfl
      exact isFile
    · rintro above notRoot ⟨below, rfl⟩ proper
      have nonempty : below ≠ [] := by
        rintro rfl
        exact proper (List.append_nil above).symm
      exact (Bool.not_eq_true' _).mp (entered above below rfl nonempty notRoot)
  · rintro ⟨_, isFile, isIncluded, notExcluded, entered⟩
    refine ⟨there ▸ isFile, ?_, ?_⟩
    · rw [isWanted, List.nil_append, isIncluded, notExcluded]
      rfl
    · rintro above below rfl nonempty notRoot
      have proper : above ≠ above ++ below :=
        fun same => nonempty (List.append_right_eq_self.mp same.symm)
      rw [isEntered, List.nil_append,
        entered above notRoot (List.prefix_append above below) proper]
      rfl

/-- Nothing is a target below what is not a directory. -/
theorem exists_entries_of_isTarget
    {names : List String}
    (isTarget : IsTarget tree root included excluded names) :
    ∃ entries, tree.at? root.names = some (.directory entries) := by
  obtain ⟨nonempty, isFile, _, _, _⟩ := isTarget
  rw [FileNode.at?_append] at isFile
  cases names with
  | nil =>
      exact (nonempty rfl).elim
  | cons name names =>
      cases here : tree.at? root.names with
      | none =>
          rw [here] at isFile
          exact isFile.elim
      | some node =>
          rw [here, Option.bind_some, FileNode.at?] at isFile
          cases node with
          | file content =>
              exact isFile.elim
          | link target =>
              exact isFile.elim
          | directory entries =>
              exact ⟨entries, rfl⟩

/-- What is found below a directory, in the order of the walk, is put in order. -/
theorem find_eq
    {entries : List (String × FileNode)}
    (here : tree.at? root.names = some (.directory entries)) :
    find tree root included excluded =
      ((below included excluded
        (fun names => tree.isDirectory ⟨root.root, root.names ++ names⟩) []
          (.directory entries)).mergeSort FilePath.namesPrecede).map fun names =>
        ⟨root.root, root.names ++ names⟩ := by
  rw [find, here]
  rfl

/-- Nothing is found below what is not a directory. -/
theorem find_eq_nil
    (notDirectory : ∀ entries, tree.at? root.names ≠ some (.directory entries)) :
    find tree root included excluded = [] := by
  rw [find]
  split
  · next entries here =>
    exact (notDirectory entries here).elim
  · rfl

/-- The targets are found, and nothing else. -/
theorem mem_find_iff
    (distinct : tree.Distinct)
    {path : FilePath} :
    path ∈ find tree root included excluded ↔
      ∃ names,
        path = ⟨root.root, root.names ++ names⟩ ∧
          IsTarget tree root included excluded names := by
  by_cases isDirectory : ∃ entries, tree.at? root.names = some (.directory entries)
  · obtain ⟨entries, here⟩ := isDirectory
    simp only [find_eq here, List.mem_map, List.mem_mergeSort, mem_below_iff (distinct.of_at? here),
      List.reverse_nil, List.nil_append, isFound_iff_isTarget here, exists_eq_left']
    constructor
    · rintro ⟨names, isTarget, rfl⟩
      exact ⟨names, rfl, isTarget⟩
    · rintro ⟨names, rfl, isTarget⟩
      exact ⟨names, isTarget, rfl⟩
  · rw [not_exists] at isDirectory
    rw [find_eq_nil isDirectory]
    constructor
    · intro member
      cases member
    · rintro ⟨names, _, isTarget⟩
      obtain ⟨entries, here⟩ := exists_entries_of_isTarget isTarget
      exact (isDirectory entries here).elim

/-- No file is found twice. -/
theorem nodup_find (distinct : tree.Distinct) :
    (find tree root included excluded).Nodup := by
  by_cases isDirectory : ∃ entries, tree.at? root.names = some (.directory entries)
  · obtain ⟨entries, here⟩ := isDirectory
    rw [find_eq here]
    refine List.Nodup.map ?_ ((List.mergeSort_perm _ _).nodup_iff.mpr ?_)
    · intro names others same
      exact List.append_cancel_left (FilePath.mk.inj same).2
    · exact nodup_below (distinct.of_at? here) []
  · rw [find_eq_nil (not_exists.mp isDirectory)]
    exact List.nodup_nil

/-- The files are found in the order of their paths. -/
theorem pairwise_find
    (tree : FileNode)
    (root : FilePath)
    (included excluded : List Char → Bool) :
    (find tree root included excluded).Pairwise fun path other => path.precedes other = true := by
  by_cases isDirectory : ∃ entries, tree.at? root.names = some (.directory entries)
  · obtain ⟨entries, here⟩ := isDirectory
    rw [find_eq here, List.pairwise_map]
    have sorted :=
      List.pairwise_mergeSort FilePath.namesPrecede_trans FilePath.namesPrecede_total
        (below included excluded
          (fun names => tree.isDirectory ⟨root.root, root.names ++ names⟩) []
            (.directory entries))
    refine sorted.imp fun {names others} ordered => ?_
    have behindRoot := FilePath.namesPrecede_append_left (root.root :: root.names) names others
    exact behindRoot.trans ordered
  · rw [find_eq_nil (not_exists.mp isDirectory)]
    exact List.Pairwise.nil

/-- Places that have the same thing count as files alike. -/
theorem countsAsFile_congr
    {found other : Option FileNode}
    (same : FileNode.SameKind found other)
    (leadsToDirectory : Bool) :
    FileNode.CountsAsFile leadsToDirectory found ↔
      FileNode.CountsAsFile leadsToDirectory other := by
  cases same <;> rfl

section Congr

variable
  {other : FileNode}
  (distinct : tree.Distinct)
  (otherDistinct : other.Distinct)
  (alike : tree.Alike other)

include distinct otherDistinct alike

/-- Trees that are alike have the same targets. -/
theorem isTarget_congr
    (names : List String) :
    IsTarget tree root included excluded names ↔
      IsTarget other root included excluded names := by
  have sameFile :=
    countsAsFile_congr (alike (root.names ++ names))
      (tree.isDirectory ⟨root.root, root.names ++ names⟩)
  constructor
  · rintro ⟨below, isFile, isIncluded, notExcluded, entered⟩
    refine ⟨below, ?_, isIncluded, notExcluded, entered⟩
    rw [← FileNode.isDirectory_congr distinct otherDistinct alike]
    exact sameFile.mp isFile
  · rintro ⟨below, isFile, isIncluded, notExcluded, entered⟩
    refine ⟨below, ?_, isIncluded, notExcluded, entered⟩
    rw [← FileNode.isDirectory_congr distinct otherDistinct alike] at isFile
    exact sameFile.mpr isFile

/-- The same files are found in trees that are alike. -/
theorem find_congr :
    find tree root included excluded = find other root included excluded := by
  apply FilePath.eq_of_mem_iff (nodup_find distinct) (nodup_find otherDistinct)
    (pairwise_find _ _ _ _) (pairwise_find _ _ _ _)
  intro path
  simp only [mem_find_iff distinct, mem_find_iff otherDistinct,
    isTarget_congr distinct otherDistinct alike]

/-- The same target files are resolved in trees that are alike. -/
theorem resolveTargets_congr
    (patterns exclude : List String) :
    resolveTargets tree root patterns exclude = resolveTargets other root patterns exclude := by
  simp only [resolveTargets, FileNode.resolve_congr distinct otherDistinct alike,
    find_congr distinct otherDistinct alike]

end Congr

open Glob (Filter)

/-- The target files are found if all patterns can be read and the directory can be resolved. -/
theorem resolveTargets_eq_ok_iff
    {patterns exclude : List String}
    {paths : List FilePath} :
    resolveTargets tree root patterns exclude = .ok paths ↔
      ∃ included excluded resolved,
        Filter.parse patterns = .ok included ∧
          Filter.parse exclude = .ok excluded ∧
          tree.resolve root = .ok resolved ∧
          paths = find tree resolved included.accepts excluded.accepts := by
  simp only [resolveTargets, Except.bind_eq_ok_iff, Except.mapError_eq_ok_iff, pure, Except.pure,
    Except.ok.injEq]
  constructor
  · rintro ⟨included, isIncluded, excluded, isExcluded, resolved, isResolved, rfl⟩
    exact ⟨included, excluded, resolved, isIncluded, isExcluded, isResolved, rfl⟩
  · rintro ⟨included, excluded, resolved, isIncluded, isExcluded, isResolved, rfl⟩
    exact ⟨included, isIncluded, excluded, isExcluded, resolved, isResolved, rfl⟩

/-- Nothing is found below an excluded directory, whatever is said of the files in it. -/
theorem notMem_find_of_excluded
    (distinct : tree.Distinct)
    {above : List String}
    (notRoot : above ≠ [])
    (pruned : excluded (relative above ++ ['/']) = true)
    {below : List String}
    (nonempty : below ≠ []) :
    ⟨root.root, root.names ++ (above ++ below)⟩ ∉ find tree root included excluded := by
  rw [mem_find_iff distinct]
  rintro ⟨names, same, isTarget⟩
  obtain rfl : above ++ below = names := List.append_cancel_left (FilePath.mk.inj same).2
  have proper : above ≠ above ++ below :=
    fun same => nonempty (List.append_right_eq_self.mp same.symm)
  have entered := isTarget.entered above notRoot (List.prefix_append above below) proper
  rw [pruned] at entered
  cases entered

/--
The target files of patterns are those that a plain filter over all paths below the root takes in,
once each and in the order of their paths.  They do not depend on the order in which directories
list their entries, and patterns that take files back in bring back none below an excluded
directory unless they bring back the directory.
-/
theorem resolveTargets_exact
    (distinct : tree.Distinct)
    (root : FilePath) :
    (∀ included excluded,
      (∀ path,
        path ∈ find tree root included excluded ↔
          ∃ names,
            path = ⟨root.root, root.names ++ names⟩ ∧
              IsTarget tree root included excluded names) ∧
      (find tree root included excluded).Nodup ∧
      (find tree root included excluded).Pairwise fun path other => path.precedes other = true) ∧
    (∀ patterns exclude paths,
      resolveTargets tree root patterns exclude = .ok paths ↔
        ∃ included excluded resolved,
          Filter.parse patterns = .ok included ∧
            Filter.parse exclude = .ok excluded ∧
            tree.resolve root = .ok resolved ∧
            paths = find tree resolved included.accepts excluded.accepts) ∧
    (∀ other : FileNode, other.Distinct → tree.Alike other →
      (∀ included excluded,
        find tree root included excluded = find other root included excluded) ∧
      ∀ patterns exclude,
        resolveTargets tree root patterns exclude =
          resolveTargets other root patterns exclude) ∧
    ∀ patterns exclude further excluded added resolved paths above below,
      Filter.parse exclude = .ok excluded →
        Filter.parse further = .ok added →
        tree.resolve root = .ok resolved →
        resolveTargets tree root patterns (exclude ++ further) = .ok paths →
        above ≠ [] →
        below ≠ [] →
        excluded.accepts (relative above ++ ['/']) = true →
        (∀ rule ∈ added, rule.verdict? (relative above ++ ['/']) ≠ some false) →
        ⟨resolved.root, resolved.names ++ (above ++ below)⟩ ∉ paths := by
  refine ⟨?_, ?_, ?_, ?_⟩
  · intro included excluded
    exact ⟨fun path => mem_find_iff distinct, nodup_find distinct, pairwise_find _ _ _ _⟩
  · intro patterns exclude paths
    exact resolveTargets_eq_ok_iff
  · intro other otherDistinct alike
    exact
      ⟨fun included excluded => find_congr distinct otherDistinct alike,
        resolveTargets_congr distinct otherDistinct alike⟩
  · intro patterns exclude further excluded added resolved paths above below isExcluded isAdded
      isResolved isFound notRoot nonempty pruned unopposed
    obtain ⟨included, all, _, _, isAll, alsoResolved, rfl⟩ := resolveTargets_eq_ok_iff.mp isFound
    obtain rfl : resolved = _ :=
      Except.ok.inj (isResolved.symm.trans alsoResolved)
    obtain rfl : excluded ++ added = all :=
      Except.ok.inj ((Filter.parse_append_of_eq_ok isExcluded isAdded).symm.trans isAll)
    have stillPruned := Filter.accepts_append_of_accepts pruned unopposed
    exact notMem_find_of_excluded distinct notRoot stillPruned nonempty

/-- A directory with two directories that hold a file each, and a link to one of them. -/
def shelf : FileNode :=
  .directory
    [("d", .directory [("x", .file .empty)]),
      ("l", .link "c"),
      ("c", .directory [("x", .file .empty)])]

/-- The same directory, whose entries are listed from the last one to the first. -/
def turnedShelf : FileNode :=
  .directory shelf.entries.reverse

/-- No two entries of the directory have one name. -/
theorem distinct_shelf : shelf.Distinct := by
  have single : (FileNode.directory [("x", .file .empty)]).Distinct := by
    refine FileNode.distinct_directory (List.nodup_singleton "x") ?_
    simpa using FileNode.distinct_file .empty false
  refine FileNode.distinct_directory (by decide) ?_
  simpa using ⟨single, FileNode.distinct_link "c", single⟩

/-- No two entries of the directory have one name in the other order. -/
theorem distinct_turnedShelf : turnedShelf.Distinct :=
  FileNode.distinct_directory (by decide) fun _ member =>
    distinct_shelf.of_mem (List.mem_reverse.mp member)

/-- The two directories are alike. -/
theorem alike_turnedShelf : shelf.Alike turnedShelf :=
  FileNode.Alike.of_perm distinct_shelf.nodup (List.reverse_perm _).symm

/-- What is found in the directory, though a pattern speaks for a file that is pruned. -/
theorem resolveTargets_exact_shelf :
    ∃ paths : List FilePath,
      paths = [⟨"/", ["c", "x"]⟩] ∧
        resolveTargets shelf ⟨"/", []⟩ ["x"] (["d/"] ++ ["!d/x"]) = .ok paths ∧
        resolveTargets turnedShelf ⟨"/", []⟩ ["x"] (["d/"] ++ ["!d/x"]) = .ok paths ∧
        paths.Nodup ∧
        ⟨"/", [] ++ (["d"] ++ ["x"])⟩ ∉ paths := by
  obtain ⟨found, resolved, reordered, pruned⟩ :=
    resolveTargets_exact distinct_shelf ⟨"/", []⟩
  have isFound :
      resolveTargets shelf ⟨"/", []⟩ ["x"] (["d/"] ++ ["!d/x"]) =
        .ok [⟨"/", ["c", "x"]⟩] := by
    decide +kernel
  have excludes :
      ((Filter.parse ["d/"]).toOption.map (·.accepts (relative ["d"] ++ ['/']))) = some true := by
    decide +kernel
  have unopposed :
      ((Filter.parse ["!d/x"]).toOption.map fun added =>
        decide (∀ rule ∈ added, rule.verdict? (relative ["d"] ++ ['/']) ≠ some false)) =
        some true := by
    decide +kernel
  obtain ⟨excluded, isExcluded, excludes⟩ := Option.map_eq_some_iff.mp excludes
  obtain ⟨added, isAdded, unopposed⟩ := Option.map_eq_some_iff.mp unopposed
  have isExcluded := Except.toOption_eq_some_iff.mp isExcluded
  have isAdded := Except.toOption_eq_some_iff.mp isAdded
  have isResolved : shelf.resolve ⟨"/", []⟩ = .ok ⟨"/", []⟩ := by
    decide +kernel
  refine ⟨_, rfl, isFound, ?_, ?_, ?_⟩
  · rw [← (reordered turnedShelf distinct_turnedShelf alike_turnedShelf).2]
    exact isFound
  · obtain ⟨_, _, _, _, _, alsoResolved, paths⟩ := (resolved _ _ _).mp isFound
    rw [paths]
    cases isResolved.symm.trans alsoResolved
    exact (found _ _).2.1
  · exact
      pruned _ _ _ _ _ _ _ _ _ isExcluded isAdded isResolved isFound (by decide) (by decide)
        excludes (of_decide_eq_true unopposed)

end Targets

end BlockSync
