import BlockSync.Proofs.Block.Scan

namespace BlockSync.Block

/-!
# What leaves a block alone

Adding lines that are foreign to a tag moves or widens its block, and taking out lines beside its
block moves it.  In both cases the block keeps its lines and its fingerprint, and where there was
no block there is none afterwards.
-/

variable {tag : Tag}

/-- The lines of a block in a file. -/
def linesIn (block : Block) (lines : List Text.Line) : List Text.Line :=
  (lines.drop block.first).take (block.last + 1 - block.first)

namespace IsRegion

variable {region : List Text.Line}

/-- A region has a first and a last line. -/
theorem two_le_length (isRegion : IsRegion tag region) : 2 ≤ region.length := by
  obtain ⟨marker, inner, stop, rfl, _⟩ := isRegion
  simp

/-- Foreign lines between two lines of a region leave it a region. -/
theorem insert
    {front added back : List Text.Line}
    (isRegion : IsRegion tag (front ++ back))
    (frontNonempty : front ≠ [])
    (backNonempty : back ≠ [])
    (foreign : ∀ line ∈ added, Marker.Foreign tag line) :
    IsRegion tag (front ++ (added ++ back)) := by
  obtain ⟨marker, inner, stop, shape, begins, innerForeign, closes⟩ := isRegion
  obtain ⟨first, early, rfl⟩ := List.exists_cons_of_ne_nil frontNonempty
  obtain ⟨late, last, rfl⟩ : ∃ late last, back = late ++ [last] :=
    ⟨_, _, (List.dropLast_concat_getLast backNonempty).symm⟩
  rw [List.cons_append, List.cons.injEq, ← List.append_assoc] at shape
  obtain ⟨rfl, innerShape⟩ := shape
  obtain ⟨rfl, sameLast⟩ := List.append_inj' innerShape rfl
  obtain rfl : last = stop := by simpa using sameLast
  refine ⟨first, early ++ added ++ late, last, by simp, begins, ?_, closes⟩
  intro line member
  simp only [List.mem_append] at member
  rcases member with (isEarly | isAdded) | isLate
  · exact innerForeign line (List.mem_append_left _ isEarly)
  · exact foreign line isAdded
  · exact innerForeign line (List.mem_append_right _ isLate)

end IsRegion

/-- The first line of a block that stands somewhere. -/
@[simp] theorem first_ofRegion (before region : List Text.Line) :
    (ofRegion before region).first = before.length :=
  rfl

/-- One past the last line of a block that stands somewhere. -/
theorem last_ofRegion
    (before : List Text.Line)
    {region : List Text.Line}
    (isRegion : IsRegion tag region) :
    (ofRegion before region).last + 1 = before.length + region.length := by
  have length := isRegion.two_le_length
  simp only [ofRegion]
  omega

/-- The lines around a block are left when it is taken out. -/
theorem excise_ofRegion
    {before region : List Text.Line}
    (isRegion : IsRegion tag region)
    (after : List Text.Line) :
    (ofRegion before region).excise (before ++ (region ++ after)) = before ++ after := by
  rw [excise, last_ofRegion before isRegion, first_ofRegion, List.take_left,
    ← List.append_assoc, ← List.length_append, List.drop_left]

/-- The lines of a block are those of its region. -/
theorem linesIn_ofRegion
    {before region : List Text.Line}
    (isRegion : IsRegion tag region)
    (after : List Text.Line) :
    (ofRegion before region).linesIn (before ++ (region ++ after)) = region := by
  rw [linesIn, last_ofRegion before isRegion, first_ofRegion, List.drop_left,
    Nat.add_sub_cancel_left, List.take_left]

/-- A block that is found has a first and a last line in the file. -/
theorem bounds_of_find?
    {lines : List Text.Line}
    {block : Block}
    (found : find? tag lines = some block) :
    block.first < block.last ∧ block.last < lines.length := by
  obtain ⟨before, region, after, rfl, stands, rfl⟩ := find?_eq_some_iff.mp found
  have last := last_ofRegion before stands.isRegion
  have length := stands.isRegion.two_le_length
  simp only [first_ofRegion, List.length_append]
  omega

/-- The lines left around a block are lines of the file. -/
theorem mem_of_mem_excise
    (block : Block)
    {lines : List Text.Line}
    {line : Text.Line}
    (member : line ∈ block.excise lines) :
    line ∈ lines := by
  rcases List.mem_append.mp member with isAbove | isBelow
  · exact List.mem_of_mem_take isAbove
  · exact List.mem_of_mem_drop isBelow

/-- What holds of all lines of a file holds of those left around a block. -/
theorem forall_mem_excise
    {lines : List Text.Line}
    {holds : Text.Line → Prop}
    (block : Block)
    (all : ∀ line ∈ lines, holds line) :
    ∀ line ∈ block.excise lines, holds line :=
  fun line member => all line (block.mem_of_mem_excise member)

/-- A block can be put back where it was taken out. -/
theorem first_le_length_excise
    {lines : List Text.Line}
    {block : Block}
    (found : find? tag lines = some block) :
    block.first ≤ (block.excise lines).length := by
  have bounds := bounds_of_find? found
  rw [excise, List.length_append, List.length_take]
  omega

/-- Above a block no other one is complete. -/
theorem unpaired_take_excise
    {lines : List Text.Line}
    {block : Block}
    (found : find? tag lines = some block) :
    Unpaired tag ((block.excise lines).take block.first) := by
  obtain ⟨before, region, after, rfl, stands, rfl⟩ := find?_eq_some_iff.mp found
  rw [excise_ofRegion stands.isRegion, first_ofRegion, List.take_left]
  exact stands.unpaired

/-- A file is cut above a region, below it, or between two of its lines. -/
theorem cut_cases
    {before region after left right : List Text.Line}
    (shape : left ++ right = before ++ (region ++ after)) :
    (∃ gap,
      before = left ++ gap ∧ right = gap ++ (region ++ after)) ∨
      (∃ gap,
        left = before ++ (region ++ gap) ∧ after = gap ++ right) ∨
      ∃ front back,
        region = front ++ back ∧ front ≠ [] ∧ back ≠ [] ∧
          left = before ++ front ∧ right = back ++ after := by
  rcases List.append_eq_append_iff.mp shape with
      ⟨gap, beforeShape, rightShape⟩ | ⟨front, leftShape, restShape⟩
  · exact Or.inl ⟨gap, beforeShape, rightShape⟩
  · rcases List.append_eq_append_iff.mp restShape with
        ⟨gap, frontShape, afterShape⟩ | ⟨back, regionShape, rightShape⟩
    · exact Or.inr (Or.inl ⟨gap, by rw [leftShape, frontShape], afterShape⟩)
    · by_cases frontEmpty : front = []
      · subst frontEmpty
        exact Or.inl ⟨[], by simpa using leftShape.symm, by simpa using restShape.symm⟩
      · by_cases backEmpty : back = []
        · subst backEmpty
          refine Or.inr (Or.inl ⟨[], ?_, by simpa using rightShape.symm⟩)
          rw [leftShape, regionShape]
          simp
        · exact Or.inr (Or.inr
            ⟨front, back, regionShape, frontEmpty, backEmpty, leftShape, rightShape⟩)

namespace Stands

variable {before region : List Text.Line}

/-- A block stays where it is if foreign lines are added above it. -/
theorem insert_above
    {upper lower added : List Text.Line}
    (stands : Stands tag (upper ++ lower) region)
    (foreign : ∀ line ∈ added, Marker.Foreign tag line) :
    Stands tag (upper ++ (added ++ lower)) region where
  unpaired :=
    stands.unpaired.insert foreign
  isRegion :=
    stands.isRegion

/-- A block is widened if foreign lines are added between two of its lines. -/
theorem insert_inside
    {front back added : List Text.Line}
    (stands : Stands tag before (front ++ back))
    (frontNonempty : front ≠ [])
    (backNonempty : back ≠ [])
    (foreign : ∀ line ∈ added, Marker.Foreign tag line) :
    Stands tag before (front ++ (added ++ back)) where
  unpaired :=
    stands.unpaired
  isRegion :=
    stands.isRegion.insert frontNonempty backNonempty foreign

/-- A block stays where it is if lines above it are taken out. -/
theorem excise_above
    {upper cut lower : List Text.Line}
    (stands : Stands tag (upper ++ (cut ++ lower)) region) :
    Stands tag (upper ++ lower) region where
  unpaired :=
    stands.unpaired.sublist
      ((List.Sublist.refl upper).append (List.sublist_append_right cut lower))
  isRegion :=
    stands.isRegion

end Stands

/-- Where a line goes when some lines are put in front of a line with a given index. -/
def openedAt (index count position : Nat) : Nat :=
  if position < index then position else position + count

/-- Where a line goes when some lines from a given index on are taken out. -/
def closedAt (index count position : Nat) : Nat :=
  if position < index then position else position - count

/-- Lines above the opened place stay. -/
theorem openedAt_of_lt
    {index position : Nat}
    (above : position < index)
    (count : Nat) :
    openedAt index count position = position :=
  if_pos above

/-- Lines from the opened place on go down. -/
theorem openedAt_of_le
    {index position : Nat}
    (below : index ≤ position)
    (count : Nat) :
    openedAt index count position = position + count :=
  if_neg (Nat.not_lt.mpr below)

/-- Lines above the closed place stay. -/
theorem closedAt_of_lt
    {index position : Nat}
    (above : position < index)
    (count : Nat) :
    closedAt index count position = position :=
  if_pos above

/-- Lines from the closed place on go up. -/
theorem closedAt_of_le
    {index position : Nat}
    (below : index ≤ position)
    (count : Nat) :
    closedAt index count position = position - count :=
  if_neg (Nat.not_lt.mpr below)

/-- A block whose first and last line went somewhere else. -/
def moved (move : Nat → Nat) (block : Block) : Block :=
  { block with first := move block.first, last := move block.last }

@[simp] theorem moved_first (move : Nat → Nat) (block : Block) :
    (block.moved move).first = move block.first :=
  rfl

@[simp] theorem moved_last (move : Nat → Nat) (block : Block) :
    (block.moved move).last = move block.last :=
  rfl

@[simp] theorem moved_fingerprint (move : Nat → Nat) (block : Block) :
    (block.moved move).fingerprint = block.fingerprint :=
  rfl

/-- A block is that of a region if it has the first line, the last line and the fingerprint. -/
theorem eq_ofRegion
    {block : Block}
    {before region : List Text.Line}
    (first : block.first = before.length)
    (last : block.last = before.length + (region.length - 1))
    (fingerprint : block.fingerprint = region.head?.bind Fingerprint.find?) :
    block = ofRegion before region := by
  cases block
  simp_all [ofRegion]

/-- A block with other lines around it is found where its lines went, with the same lines. -/
theorem Stands.find?_moved
    {before region upper lower : List Text.Line}
    {move : Nat → Nat}
    (stands : Stands tag upper region)
    (first : move before.length = upper.length)
    (last : move (before.length + (region.length - 1)) = upper.length + (region.length - 1))
    (after : List Text.Line) :
    find? tag (upper ++ (region ++ lower)) = some ((ofRegion before region).moved move) ∧
      ((ofRegion before region).moved move).linesIn (upper ++ (region ++ lower)) =
        (ofRegion before region).linesIn (before ++ (region ++ after)) := by
  have same : (ofRegion before region).moved move = ofRegion upper region :=
    eq_ofRegion first last rfl
  rw [same, stands.find?_eq, linesIn_ofRegion stands.isRegion,
    linesIn_ofRegion stands.isRegion]
  exact ⟨rfl, rfl⟩

/-- Blocks that share no line. -/
def Apart (block other : Block) : Prop :=
  block.last < other.first ∨ other.last < block.first

/-- Whether lines that are put in front of a line stay out of a block. -/
def Spares (index : Nat) (block : Block) : Prop :=
  index ≤ block.first ∨ block.last < index

section Insertion

variable {lines added : List Text.Line} {block : Block} {index : Nat}

/-- Foreign lines above a block move it down. -/
private theorem find?_insert_above
    (found : find? tag lines = some block)
    (foreign : ∀ line ∈ added, Marker.Foreign tag line)
    (above : index ≤ block.first) :
    find? tag (lines.take index ++ (added ++ lines.drop index)) =
        some (block.moved (openedAt index added.length)) ∧
      (block.moved (openedAt index added.length)).linesIn
          (lines.take index ++ (added ++ lines.drop index)) =
        block.linesIn lines := by
  obtain ⟨before, region, after, rfl, stands, rfl⟩ := find?_eq_some_iff.mp found
  rw [first_ofRegion] at above
  have lower : Stands tag (before.take index ++ (added ++ before.drop index)) region := by
    refine Stands.insert_above ?_ foreign
    rwa [List.take_append_drop]
  have shape :
      (before ++ (region ++ after)).take index ++
          (added ++ (before ++ (region ++ after)).drop index) =
        before.take index ++ (added ++ before.drop index) ++ (region ++ after) := by
    rw [List.take_append_of_le_length above, List.drop_append_of_le_length above]
    simp
  have count :
      (before.take index ++ (added ++ before.drop index)).length =
        before.length + added.length := by
    simp only [List.length_append, List.length_take, List.length_drop]
    omega
  rw [shape]
  apply lower.find?_moved
  · rw [openedAt_of_le above, count]
  · rw [openedAt_of_le (Nat.le_add_right_of_le above), count]
    omega

/-- Lines below a block do not touch it. -/
private theorem find?_insert_below
    (found : find? tag lines = some block)
    (below : block.last < index) :
    find? tag (lines.take index ++ (added ++ lines.drop index)) =
        some (block.moved (openedAt index added.length)) ∧
      (block.moved (openedAt index added.length)).linesIn
          (lines.take index ++ (added ++ lines.drop index)) =
        block.linesIn lines := by
  obtain ⟨before, region, after, rfl, stands, rfl⟩ := find?_eq_some_iff.mp found
  have last := last_ofRegion before stands.isRegion
  have length := stands.isRegion.two_le_length
  have reached : before.length + region.length ≤ index := by
    omega
  have shape :
      (before ++ (region ++ after)).take index ++
          (added ++ (before ++ (region ++ after)).drop index) =
        before ++ (region ++
          (after.take (index - (before ++ region).length) ++
            (added ++ after.drop (index - (before ++ region).length)))) := by
    rw [← List.append_assoc before, List.take_append, List.drop_append,
      List.take_of_length_le (by simpa using reached),
      List.drop_eq_nil_of_le (by simpa using reached)]
    simp
  rw [shape]
  apply stands.find?_moved
  · exact openedAt_of_lt (by omega) _
  · exact openedAt_of_lt (by omega) _

/-- Foreign lines between two lines of a block widen it. -/
private theorem find?_insert_inside
    (found : find? tag lines = some block)
    (foreign : ∀ line ∈ added, Marker.Foreign tag line)
    (afterFirst : block.first < index)
    (upToLast : index ≤ block.last) :
    find? tag (lines.take index ++ (added ++ lines.drop index)) =
      some (block.moved (openedAt index added.length)) := by
  obtain ⟨before, region, after, rfl, stands, rfl⟩ := find?_eq_some_iff.mp found
  have last := last_ofRegion before stands.isRegion
  rw [first_ofRegion] at afterFirst
  have shape :
      (before ++ (region ++ after)).take index ++
          (added ++ (before ++ (region ++ after)).drop index) =
        before ++ ((region.take (index - before.length) ++
          (added ++ region.drop (index - before.length))) ++ after) := by
    rw [List.take_append, List.drop_append, List.take_of_length_le (by omega),
      List.drop_eq_nil_of_le (by omega),
      List.take_append_of_le_length (by omega),
      List.drop_append_of_le_length (by omega)]
    simp
  have frontNonempty : region.take (index - before.length) ≠ [] := by
    apply List.ne_nil_of_length_pos
    rw [List.length_take]
    omega
  have backNonempty : region.drop (index - before.length) ≠ [] := by
    apply List.ne_nil_of_length_pos
    rw [List.length_drop]
    omega
  have split := stands
  rw [← List.take_append_drop (index - before.length) region] at split
  have wide := split.insert_inside frontNonempty backNonempty foreign
  have same :
      (ofRegion before region).moved (openedAt index added.length) =
        ofRegion before (region.take (index - before.length) ++
          (added ++ region.drop (index - before.length))) := by
    have head : (region.take (index - before.length)).head? = region.head? := by
      rw [List.head?_take, if_neg (Nat.sub_ne_zero_of_lt afterFirst)]
    apply eq_ofRegion
    · rw [moved_first, first_ofRegion, openedAt_of_lt afterFirst]
    · rw [moved_last, openedAt_of_le upToLast]
      simp only [List.length_append, List.length_take, List.length_drop]
      omega
    · rw [List.head?_append_of_ne_nil _ frontNonempty, head]
      rfl
  rw [shape, same, wide.find?_eq]

/-- Foreign lines make no block. -/
private theorem find?_insert_eq_none
    (absent : find? tag lines = none)
    (foreign : ∀ line ∈ added, Marker.Foreign tag line)
    (index : Nat) :
    find? tag (lines.take index ++ (added ++ lines.drop index)) = none := by
  rw [find?_eq_none_iff] at absent ⊢
  rw [← List.take_append_drop index lines] at absent
  exact absent.insert foreign

/-- Foreign lines neither make nor spoil a block, they only move its lines. -/
theorem find?_insert
    (foreign : ∀ line ∈ added, Marker.Foreign tag line)
    (lines : List Text.Line)
    (index : Nat) :
    find? tag (lines.take index ++ (added ++ lines.drop index)) =
      (find? tag lines).map (moved (openedAt index added.length)) := by
  cases found : find? tag lines with
  | none =>
      exact find?_insert_eq_none found foreign index
  | some block =>
      by_cases above : index ≤ block.first
      · exact (find?_insert_above found foreign above).1
      · by_cases below : block.last < index
        · exact (find?_insert_below found below).1
        · exact find?_insert_inside found foreign (Nat.not_le.mp above)
            (Nat.not_lt.mp below)

/-- A block that is spared by foreign lines keeps its lines. -/
theorem linesIn_insert
    (found : find? tag lines = some block)
    (foreign : ∀ line ∈ added, Marker.Foreign tag line)
    (spares : Spares index block) :
    (block.moved (openedAt index added.length)).linesIn
        (lines.take index ++ (added ++ lines.drop index)) =
      block.linesIn lines := by
  rcases spares with above | below
  · exact (find?_insert_above found foreign above).2
  · exact (find?_insert_below found below).2

end Insertion

section Excision

variable {lines : List Text.Line} {block other : Block}

/-- What stands below a block is what is left below its first line without its lines. -/
private theorem drop_last
    (ordered : other.first ≤ other.last)
    (lines : List Text.Line) :
    lines.drop (other.last + 1) =
      (lines.drop other.first).drop (other.last + 1 - other.first) := by
  rw [List.drop_drop]
  congr 1
  omega

/-- Lines taken out above a block move it up. -/
private theorem find?_excise_above
    (found : find? tag lines = some block)
    (ordered : other.first ≤ other.last)
    (above : other.last < block.first) :
    find? tag (other.excise lines) =
        some (block.moved (closedAt other.first (other.last + 1 - other.first))) ∧
      (block.moved (closedAt other.first (other.last + 1 - other.first))).linesIn
          (other.excise lines) =
        block.linesIn lines := by
  obtain ⟨before, region, after, rfl, stands, rfl⟩ := find?_eq_some_iff.mp found
  rw [first_ofRegion] at above
  have beforeShape :
      before =
        before.take other.first ++
          ((before.drop other.first).take (other.last + 1 - other.first) ++
            before.drop (other.last + 1)) := by
    rw [drop_last ordered, List.take_append_drop, List.take_append_drop]
  have upper : Stands tag (before.take other.first ++ before.drop (other.last + 1))
      region := by
    apply Stands.excise_above
    rw [← beforeShape]
    exact stands
  have shape :
      other.excise (before ++ (region ++ after)) =
        before.take other.first ++ before.drop (other.last + 1) ++
          (region ++ after) := by
    rw [excise, List.take_append_of_le_length (by omega),
      List.drop_append_of_le_length (by omega), List.append_assoc]
  have count :
      (before.take other.first ++ before.drop (other.last + 1)).length =
        before.length - (other.last + 1 - other.first) := by
    rw [List.length_append, List.length_take, List.length_drop]
    omega
  rw [shape]
  apply upper.find?_moved
  · rw [closedAt_of_le (by omega), count]
  · rw [closedAt_of_le (by omega), count]
    omega

/-- Lines taken out below a block do not touch it. -/
private theorem find?_excise_below
    (found : find? tag lines = some block)
    (ordered : other.first ≤ other.last)
    (below : block.last < other.first) :
    find? tag (other.excise lines) =
        some (block.moved (closedAt other.first (other.last + 1 - other.first))) ∧
      (block.moved (closedAt other.first (other.last + 1 - other.first))).linesIn
          (other.excise lines) =
        block.linesIn lines := by
  obtain ⟨before, region, after, rfl, stands, rfl⟩ := find?_eq_some_iff.mp found
  have last := last_ofRegion before stands.isRegion
  have length := stands.isRegion.two_le_length
  have reached : (before ++ region).length ≤ other.first := by
    rw [List.length_append]
    omega
  have shape :
      other.excise (before ++ (region ++ after)) =
        before ++ (region ++
          (after.take (other.first - (before ++ region).length) ++
            after.drop (other.last + 1 - (before ++ region).length))) := by
    rw [excise, ← List.append_assoc before, List.take_append, List.drop_append,
      List.take_of_length_le reached,
      List.drop_eq_nil_of_le (Nat.le_succ_of_le (Nat.le_trans reached ordered))]
    simp
  rw [shape]
  apply stands.find?_moved
  · exact closedAt_of_lt (by omega) _
  · exact closedAt_of_lt (by omega) _

/-- The lines left around a block are in their order. -/
theorem excise_sublist
    (ordered : other.first ≤ other.last)
    (lines : List Text.Line) :
    (other.excise lines).Sublist lines := by
  conv_rhs => rw [← List.take_append_drop other.first lines]
  apply (List.Sublist.refl _).append
  rw [drop_last ordered]
  exact List.drop_sublist _ _

/-- Lines taken out beside a block, if there is one, only move it. -/
theorem find?_excise
    (ordered : other.first ≤ other.last)
    (apart : ∀ block, find? tag lines = some block → other.Apart block) :
    find? tag (other.excise lines) =
      (find? tag lines).map
        (moved (closedAt other.first (other.last + 1 - other.first))) := by
  cases found : find? tag lines with
  | none =>
      rw [find?_eq_none_iff] at found
      exact find?_eq_none_iff.mpr (found.sublist (excise_sublist ordered lines))
  | some block =>
      rcases apart block found with above | below
      · exact (find?_excise_above found ordered above).1
      · exact (find?_excise_below found ordered below).1

/-- Once the block of the only begin marker is taken out, there is none. -/
theorem find?_excise_eq_none
    (found : find? tag lines = some block)
    (single : lines.countP (Marker.isBegin tag) ≤ 1) :
    find? tag (block.excise lines) = none := by
  obtain ⟨before, region, after, rfl, stands, rfl⟩ := find?_eq_some_iff.mp found
  obtain ⟨marker, inner, stop, rfl, begins, _⟩ := stands.isRegion
  rw [excise_ofRegion stands.isRegion, find?_eq_none_iff]
  rw [List.countP_append, List.countP_append, List.countP_cons, if_pos begins] at single
  have noneLeft : (before ++ after).countP (Marker.isBegin tag) = 0 := by
    rw [List.countP_append]
    omega
  rw [List.countP_eq_zero] at noneLeft
  exact unpaired_of_not_begins noneLeft

/-- A block beside which lines are taken out keeps its lines. -/
theorem linesIn_excise
    (found : find? tag lines = some block)
    (ordered : other.first ≤ other.last)
    (apart : other.Apart block) :
    (block.moved (closedAt other.first (other.last + 1 - other.first))).linesIn
        (other.excise lines) =
      block.linesIn lines := by
  rcases apart with above | below
  · exact (find?_excise_above found ordered above).2
  · exact (find?_excise_below found ordered below).2

end Excision

section Positions

variable {block other existing : Block} {index count : Nat}

/-- Two blocks are apart from each other. -/
theorem Apart.symm (apart : block.Apart other) : other.Apart block :=
  Or.symm apart

/-- Blocks that are apart stay apart when lines are put in. -/
theorem Apart.opened
    (apart : block.Apart other)
    (index count : Nat) :
    (block.moved (openedAt index count)).Apart (other.moved (openedAt index count)) := by
  simp only [Apart, moved, openedAt] at apart ⊢
  split <;> split <;> split <;> split <;> omega

/-- Blocks that are apart stay apart when lines beside both of them are taken out. -/
theorem Apart.closed
    (apart : block.Apart other)
    (blockOrdered : block.first ≤ block.last)
    (otherOrdered : other.first ≤ other.last)
    (besideBlock : existing.Apart block)
    (besideOther : existing.Apart other) :
    (block.moved (closedAt existing.first (existing.last + 1 - existing.first))).Apart
      (other.moved (closedAt existing.first (existing.last + 1 - existing.first))) := by
  simp only [Apart, moved, closedAt] at apart besideBlock besideOther ⊢
  split <;> split <;> split <;> split <;> omega

/-- A block that is spared by lines is apart from them afterwards. -/
theorem Spares.apart_opened
    (spares : Spares index block)
    {inserted : Block}
    (first : inserted.first = index)
    (last : inserted.last + 1 = index + count) :
    inserted.Apart (block.moved (openedAt index count)) := by
  simp only [Spares, Apart, moved, openedAt] at spares ⊢
  split <;> split <;> omega

/-- Lines that are put where others were taken out spare a block that is apart from those. -/
theorem Apart.spares_closed
    (apart : existing.Apart block)
    (existingOrdered : existing.first ≤ existing.last)
    (ordered : block.first ≤ block.last) :
    Spares existing.first
      (block.moved (closedAt existing.first (existing.last + 1 - existing.first))) := by
  simp only [Spares, Apart, moved, closedAt] at apart ⊢
  split <;> split <;> omega

end Positions

end BlockSync.Block
