import BlockSync.Proofs.Block.Frame

namespace BlockSync

/-!
# Blocks by name

The block of a name is that of the tag with this name.  What leaves the blocks of tags alone leaves
the blocks of names alone.
-/

/-- A name is accepted as a tag exactly if a tag has that name. -/
theorem Tag.ofName_eq_ok_iff
    {name : String}
    {tag : Tag} :
    Tag.ofName name = .ok tag ↔ tag.name = name := by
  rw [Tag.ofName]
  split
  · next valid =>
    constructor
    · intro same
      injection same with same
      rw [← same]
    · rintro rfl
      rfl
  · next invalid =>
    constructor
    · intro same
      cases same
    · rintro rfl
      exact (invalid tag.isTagName).elim

namespace Block

/-- The block of a name in a file; a name that is no tag has none. -/
def named? (name : String) (lines : List Text.Line) : Option Block :=
  match Tag.ofName name with
  | .ok tag => find? tag lines
  | .error _ => none

/-- Lines that are foreign to the tag with a name, if there is one. -/
def ForeignTo (name : String) (added : List Text.Line) : Prop :=
  ∀ tag : Tag, tag.name = name → ∀ line ∈ added, Marker.Foreign tag line

variable {name : String} {tag : Tag} {lines added : List Text.Line} {block other : Block}

/-- The block of the name of a tag is that of the tag. -/
theorem named?_eq
    (sameName : tag.name = name)
    (lines : List Text.Line) :
    named? name lines = find? tag lines := by
  rw [named?, Tag.ofName_eq_ok_iff.mpr sameName]

/-- A name has a block only as the name of a tag. -/
theorem exists_tag_of_named?
    (found : named? name lines = some block) :
    ∃ tag : Tag, tag.name = name ∧ find? tag lines = some block := by
  rw [named?] at found
  cases named : Tag.ofName name with
  | error error =>
      rw [named] at found
      cases found
  | ok tag =>
      rw [named] at found
      exact ⟨tag, Tag.ofName_eq_ok_iff.mp named, found⟩

/-- The first line of the block of a name is above its last one. -/
theorem ordered_of_named?
    (found : named? name lines = some block) :
    block.first ≤ block.last := by
  obtain ⟨tag, _, foundTag⟩ := exists_tag_of_named? found
  exact Nat.le_of_lt (bounds_of_find? foundTag).1

/-- Foreign lines neither make nor spoil the block of a name, they only move its lines. -/
theorem named?_insert
    (foreign : ForeignTo name added)
    (lines : List Text.Line)
    (index : Nat) :
    named? name (lines.take index ++ (added ++ lines.drop index)) =
      (named? name lines).map (moved (openedAt index added.length)) := by
  rw [named?, named?]
  cases named : Tag.ofName name with
  | error error =>
      rfl
  | ok tag =>
      exact find?_insert (foreign tag (Tag.ofName_eq_ok_iff.mp named)) lines index

/-- The block of a name that is spared by foreign lines keeps its lines. -/
theorem linesIn_insert_named?
    {index : Nat}
    (found : named? name lines = some block)
    (foreign : ForeignTo name added)
    (spares : Spares index block) :
    (block.moved (openedAt index added.length)).linesIn
        (lines.take index ++ (added ++ lines.drop index)) =
      block.linesIn lines := by
  obtain ⟨tag, sameName, foundTag⟩ := exists_tag_of_named? found
  exact linesIn_insert foundTag (foreign tag sameName) spares

/-- Lines taken out beside the block of a name, if there is one, only move it. -/
theorem named?_excise
    (ordered : other.first ≤ other.last)
    (apart : ∀ block, named? name lines = some block → other.Apart block) :
    named? name (other.excise lines) =
      (named? name lines).map
        (moved (closedAt other.first (other.last + 1 - other.first))) := by
  rw [named?, named?]
  cases named : Tag.ofName name with
  | error error =>
      rfl
  | ok tag =>
      refine find?_excise ordered fun block found => apart block ?_
      rw [named?_eq (Tag.ofName_eq_ok_iff.mp named), found]

/-- The block of a name beside which lines are taken out keeps its lines. -/
theorem linesIn_excise_named?
    (found : named? name lines = some block)
    (ordered : other.first ≤ other.last)
    (apart : other.Apart block) :
    (block.moved (closedAt other.first (other.last + 1 - other.first))).linesIn
        (other.excise lines) =
      block.linesIn lines := by
  obtain ⟨tag, _, foundTag⟩ := exists_tag_of_named? found
  exact linesIn_excise foundTag ordered apart

end Block

end BlockSync
