import BlockSync.Proofs.Block.Scan
import Mathlib.Order.Bounds.Basic

namespace BlockSync.Block

/-!
# Which block is found

The scan of a file for the block of a tag answers to a rule that mentions neither a state nor an
order of steps: the block ends at the first line that closes a block and has a begin marker
somewhere above it, and it begins at the last begin marker above that line.
-/

/-- The indices of the lines that hold a begin marker of a tag. -/
def beginsIn (tag : Tag) (lines : List Text.Line) : Set Nat :=
  {index | ∃ line, lines[index]? = some line ∧ Marker.isBegin tag line = true}

/-- The indices of the lines that hold an end marker of a tag and no begin marker. -/
def closesIn (tag : Tag) (lines : List Text.Line) : Set Nat :=
  {index | ∃ line, lines[index]? = some line ∧ Marker.closes tag line = true}

/-- The indices of the lines that close a block and have a begin marker above them. -/
def completesIn (tag : Tag) (lines : List Text.Line) : Set Nat :=
  {index | index ∈ closesIn tag lines ∧ ∃ above ∈ beginsIn tag lines, above < index}

/-- The block that the lines of a file call for. -/
structure IsSelected (tag : Tag) (lines : List Text.Line) (block : Block) : Prop where
  last :
    IsLeast (completesIn tag lines) block.last
  first :
    IsGreatest {index | index ∈ beginsIn tag lines ∧ index < block.last} block.first
  fingerprint :
    ∃ marker, lines[block.first]? = some marker ∧ block.fingerprint = Fingerprint.find? marker

variable {tag : Tag} {lines : List Text.Line} {block other : Block}

/-- Lines are unpaired exactly if no line that closes a block has a begin marker above it. -/
theorem unpaired_iff_completesIn_eq_empty : Unpaired tag lines ↔ completesIn tag lines = ∅ := by
  rw [Unpaired, List.pairwise_iff_getElem, Set.eq_empty_iff_forall_notMem]
  constructor
  · rintro unpaired index ⟨⟨line, here, closes⟩, above, ⟨marker, there, begins⟩, ordered⟩
    obtain ⟨indexIn, rfl⟩ := List.getElem?_eq_some_iff.mp here
    obtain ⟨aboveIn, rfl⟩ := List.getElem?_eq_some_iff.mp there
    rw [unpaired above index aboveIn indexIn ordered begins] at closes
    cases closes
  · intro nothing above index aboveIn indexIn ordered begins
    rw [← Bool.not_eq_true]
    intro closes
    exact
      nothing index
        ⟨⟨lines[index], List.getElem?_eq_getElem indexIn, closes⟩, above,
          ⟨lines[above], List.getElem?_eq_getElem aboveIn, begins⟩, ordered⟩

/-- At most one block is called for. -/
theorem IsSelected.unique
    (selected : IsSelected tag lines block)
    (otherSelected : IsSelected tag lines other) :
    block = other := by
  obtain ⟨first, last, fingerprint⟩ := block
  obtain ⟨otherFirst, otherLast, otherFingerprint⟩ := other
  obtain rfl : last = otherLast := selected.last.unique otherSelected.last
  obtain rfl : first = otherFirst := selected.first.unique otherSelected.first
  obtain ⟨marker, here, rfl⟩ := selected.fingerprint
  obtain ⟨sameMarker, there, rfl⟩ := otherSelected.fingerprint
  obtain rfl : marker = sameMarker := Option.some.inj (here.symm.trans there)
  rfl

/-- No marker of the tag stands between the first and the last line that are called for. -/
theorem IsSelected.foreign_between
    (selected : IsSelected tag lines block)
    {index : Nat}
    {line : Text.Line}
    (afterFirst : block.first < index)
    (beforeLast : index < block.last)
    (here : lines[index]? = some line) :
    Marker.Foreign tag line := by
  have notBegin : index ∉ beginsIn tag lines := by
    intro begins
    exact Nat.not_le.mpr afterFirst (selected.first.2 ⟨begins, beforeLast⟩)
  have notCloses : index ∉ closesIn tag lines := by
    intro closes
    exact
      Nat.not_le.mpr beforeLast
        (selected.last.2 ⟨closes, block.first, selected.first.1.1, afterFirst⟩)
  apply Marker.foreign_of_not_closes
  · exact Bool.eq_false_iff.mpr fun begins => notBegin ⟨line, here, begins⟩
  · exact Bool.eq_false_iff.mpr fun closes => notCloses ⟨line, here, closes⟩

/-- Where a line up to the end of a region stands: above the region, or in one of its parts. -/
private theorem line_cases
    {before inner after : List Text.Line}
    {marker stop line : Text.Line}
    {index : Nat}
    (upToLast : index ≤ before.length + (inner.length + 1))
    (here : (before ++ (marker :: (inner ++ [stop]) ++ after))[index]? = some line) :
    before[index]? = some line ∨
      (index = before.length ∧ line = marker) ∨
      (before.length < index ∧ line ∈ inner) ∨
      (index = before.length + (inner.length + 1) ∧ line = stop) := by
  by_cases above : index < before.length
  · rw [List.getElem?_append_left above] at here
    exact Or.inl here
  · obtain ⟨count, rfl⟩ := Nat.exists_eq_add_of_le (Nat.not_lt.mp above)
    rw [List.getElem?_append_right (Nat.le_add_right _ _), Nat.add_sub_cancel_left,
      List.cons_append, List.append_assoc] at here
    cases count with
    | zero =>
        rw [List.getElem?_cons_zero] at here
        exact Or.inr (Or.inl ⟨rfl, (Option.some.inj here).symm⟩)
    | succ count =>
        rw [List.getElem?_cons_succ] at here
        by_cases inside : count < inner.length
        · rw [List.getElem?_append_left inside] at here
          exact Or.inr (Or.inr (Or.inl ⟨by omega, List.mem_of_getElem? here⟩))
        · obtain rfl : count = inner.length := by omega
          rw [List.getElem?_append_right (Nat.le_refl _), Nat.sub_self,
            List.singleton_append, List.getElem?_cons_zero] at here
          exact Or.inr (Or.inr (Or.inr ⟨rfl, (Option.some.inj here).symm⟩))

/-- A block that is found is the one that the lines call for. -/
theorem isSelected_of_find?
    (found : find? tag lines = some block) :
    IsSelected tag lines block := by
  obtain ⟨before, _, after, rfl, ⟨unpaired, marker, inner, stop, rfl, begins, foreign, closes⟩,
    rfl⟩ := find?_eq_some_iff.mp found
  have firstLine :
      (before ++ (marker :: (inner ++ [stop]) ++ after))[before.length]? = some marker := by
    simp
  have lastLine :
      (before ++ (marker :: (inner ++ [stop]) ++ after))[before.length + (inner.length + 1)]? =
        some stop := by
    simp
  have stopNotBegin : Marker.isBegin tag stop = false := by
    rw [Marker.closes, Bool.and_eq_true, Bool.not_eq_true'] at closes
    exact closes.2
  have shape :
      ofRegion before (marker :: (inner ++ [stop])) =
        ⟨before.length, before.length + (inner.length + 1), Fingerprint.find? marker⟩ := by
    simp [ofRegion]
  rw [shape]
  refine ⟨⟨⟨⟨stop, lastLine, closes⟩, before.length, ⟨marker, firstLine, begins⟩, ?_⟩, ?_⟩,
    ⟨⟨⟨marker, firstLine, begins⟩, ?_⟩, ?_⟩, marker, firstLine, rfl⟩
  · exact Nat.lt_add_of_pos_right (Nat.succ_pos _)
  · rintro index ⟨⟨line, here, lineCloses⟩, above, ⟨opening, there, lineBegins⟩, ordered⟩
    by_contra early
    rcases line_cases (Nat.le_of_not_ge early) here with
        isAbove | ⟨_, rfl⟩ | ⟨_, isInner⟩ | ⟨rfl, _⟩
    -- What stands above a line above the region stands above the region, too.
    · obtain ⟨indexIn, _⟩ := List.getElem?_eq_some_iff.mp isAbove
      rw [List.getElem?_append_left (Nat.lt_trans ordered indexIn)] at there
      have completes : index ∈ completesIn tag before :=
        ⟨⟨line, isAbove, lineCloses⟩, above, ⟨opening, there, lineBegins⟩, ordered⟩
      rw [unpaired_iff_completesIn_eq_empty.mp unpaired] at completes
      exact completes
    · simp [Marker.closes, begins] at lineCloses
    · rw [(foreign line isInner).notCloses] at lineCloses
      cases lineCloses
    · exact early (Nat.le_refl _)
  · exact Nat.lt_add_of_pos_right (Nat.succ_pos _)
  · rintro index ⟨⟨line, here, lineBegins⟩, ordered⟩
    rcases line_cases (Nat.le_of_lt ordered) here with
        isAbove | ⟨rfl, _⟩ | ⟨_, isInner⟩ | ⟨_, rfl⟩
    · exact Nat.le_of_lt (List.getElem?_eq_some_iff.mp isAbove).1
    · exact Nat.le_refl _
    · rw [(foreign line isInner).notBegin] at lineBegins
      cases lineBegins
    · rw [stopNotBegin] at lineBegins
      cases lineBegins

/-- Nothing is found exactly if no line that closes a block has a begin marker above it. -/
theorem find?_eq_none_iff_completesIn_eq_empty :
    find? tag lines = none ↔ completesIn tag lines = ∅ :=
  find?_eq_none_iff.trans unpaired_iff_completesIn_eq_empty

/-- A block is found exactly if it is the one that the lines call for. -/
theorem find?_eq_some_iff_isSelected :
    find? tag lines = some block ↔ IsSelected tag lines block := by
  constructor
  · exact isSelected_of_find?
  · intro selected
    cases found : find? tag lines with
    | none =>
        have completes := selected.last.1
        rw [find?_eq_none_iff_completesIn_eq_empty.mp found] at completes
        cases completes
    | some other =>
        exact congrArg some ((isSelected_of_find? found).unique selected)

/--
The block of a tag in a file ends at the first line that closes a block and has a begin marker
above it, and begins at the last begin marker above that line; without such a line there is none.
So no marker of the tag stands between its first and its last line.
-/
theorem find?_selects
    (tag : Tag)
    (lines : List Text.Line) :
    (∀ block, find? tag lines = some block ↔ IsSelected tag lines block) ∧
      (find? tag lines = none ↔ completesIn tag lines = ∅) ∧
      ∀ block, find? tag lines = some block →
        ∀ index line, block.first < index → index < block.last → lines[index]? = some line →
          Marker.Foreign tag line :=
  ⟨fun _ => find?_eq_some_iff_isSelected, find?_eq_none_iff_completesIn_eq_empty,
    fun _ found _ _ afterFirst beforeLast here =>
      (isSelected_of_find? found).foreign_between afterFirst beforeLast here⟩

/-- Lines with an end marker that has no begin marker above it, and with two begin markers. -/
def orphaned : List Text.Line :=
  ["@generated end x".toList, "@generated begin x -".toList, "@generated begin x -".toList,
    "text".toList, "@generated end x".toList]

/-- Markers without a partner are passed over, and the line in the block is foreign. -/
theorem find?_orphaned :
    IsSelected ⟨"x", by decide⟩ orphaned ⟨2, 4, none⟩ ∧
      Marker.Foreign ⟨"x", by decide⟩ "text".toList := by
  have found : find? ⟨"x", by decide⟩ orphaned = some ⟨2, 4, none⟩ := by
    decide +kernel
  obtain ⟨selects, _, foreignBetween⟩ := find?_selects ⟨"x", by decide⟩ orphaned
  exact
    ⟨(selects _).mp found, foreignBetween _ found 3 _ (by decide) (by decide) rfl⟩

end BlockSync.Block
