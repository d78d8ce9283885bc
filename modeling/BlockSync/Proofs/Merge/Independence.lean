import BlockSync.Proofs.Merge.Reread
import BlockSync.Proofs.Merge.Reversal

namespace BlockSync

/-!
# Independence of blocks

A call is about one tag.  The block of every other tag keeps its lines and its fingerprint, unless
it shares a line with the block of the call or a fresh block is put between two of its lines.
Markers that belong to no block make no difference, and neither does a tag that starts with another
one.
-/

namespace Block

/--
A block that was only shifted when a file changed.  It is as far from the start of the file as
before, or as far from its end.
-/
structure Shifted
    (before after : List Text.Line)
    (block later : Block) :
    Prop where
  sameLines :
    later.linesIn after = block.linesIn before
  sameFingerprint :
    later.fingerprint = block.fingerprint
  place :
    later.first = block.first ∧ later.last = block.last ∨
      later.first + before.length = block.first + after.length ∧
        later.last + before.length = block.last + after.length

/-- A block in a file that did not change is not shifted. -/
theorem Shifted.refl
    (lines : List Text.Line)
    (block : Block) :
    Shifted lines lines block block where
  sameLines :=
    rfl
  sameFingerprint :=
    rfl
  place :=
    Or.inl ⟨rfl, rfl⟩

section Lines

variable
  {tag : Tag}
  {lines added : List Text.Line}
  {block other : Block}
  {index : Nat}

/-- Lines that are put in make a file longer. -/
theorem length_insert
    (lines : List Text.Line)
    (index : Nat)
    (added : List Text.Line) :
    (lines.take index ++ (added ++ lines.drop index)).length =
      lines.length + added.length := by
  simp only [List.length_append, List.length_take, List.length_drop]
  omega

/-- A block beside which lines are taken out is found where its lines went. -/
theorem find?_excise_of_apart
    (found : find? tag lines = some block)
    (ordered : other.first ≤ other.last)
    (apart : other.Apart block) :
    find? tag (other.excise lines) =
      some (block.moved (closedAt other.first (other.last + 1 - other.first))) := by
  rw [find?_excise ordered fun same isSame => ?_, found]
  · rfl
  · rw [found, Option.some.injEq] at isSame
    rwa [← isSame]

/-- No block comes about when lines are taken out. -/
theorem find?_excise_of_absent
    (absent : find? tag lines = none)
    (ordered : other.first ≤ other.last) :
    find? tag (other.excise lines) = none := by
  rw [find?_excise ordered fun same isSame => ?_, absent]
  · rfl
  · rw [absent] at isSame
    cases isSame

/-- A block that is taken out makes a file shorter. -/
theorem length_excise
    (ordered : other.first ≤ other.last)
    (within : other.last < lines.length) :
    (other.excise lines).length + (other.last + 1 - other.first) = lines.length := by
  simp only [excise, List.length_append, List.length_take, List.length_drop]
  omega

/-- A block that is spared by foreign lines is only shifted. -/
theorem shifted_opened
    (found : find? tag lines = some block)
    (foreign : ∀ line ∈ added, Marker.Foreign tag line)
    (spares : Spares index block) :
    Shifted lines (lines.take index ++ (added ++ lines.drop index)) block
      (block.moved (openedAt index added.length)) where
  sameLines :=
    linesIn_insert found foreign spares
  sameFingerprint :=
    rfl
  place := by
    have ordered := (bounds_of_find? found).1
    rw [length_insert, moved_first, moved_last]
    rcases spares with above | below
    · right
      rw [openedAt_of_le above, openedAt_of_le (by omega)]
      omega
    · left
      rw [openedAt_of_lt (by omega), openedAt_of_lt below]
      exact ⟨rfl, rfl⟩

/-- A block beside which lines are taken out is only shifted. -/
theorem shifted_closed
    (found : find? tag lines = some block)
    (ordered : other.first ≤ other.last)
    (within : other.last < lines.length)
    (apart : other.Apart block) :
    Shifted lines (other.excise lines) block
      (block.moved (closedAt other.first (other.last + 1 - other.first))) where
  sameLines :=
    linesIn_excise found ordered apart
  sameFingerprint :=
    rfl
  place := by
    have blockOrdered := (bounds_of_find? found).1
    have length := length_excise ordered within
    rw [moved_first, moved_last]
    rcases apart with above | below
    · right
      rw [closedAt_of_le (by omega), closedAt_of_le (by omega)]
      omega
    · left
      rw [closedAt_of_lt (by omega), closedAt_of_lt below]
      exact ⟨rfl, rfl⟩

/-- A block is only shifted by lines that are foreign and take the place of lines beside it. -/
theorem shifted_replaced
    (found : find? tag lines = some block)
    (foreign : ∀ line ∈ added, Marker.Foreign tag line)
    (ordered : other.first ≤ other.last)
    (within : other.last < lines.length)
    (apart : other.Apart block) :
    Shifted lines
      ((other.excise lines).take other.first ++ (added ++ (other.excise lines).drop other.first))
      block
      ((block.moved (closedAt other.first (other.last + 1 - other.first))).moved
        (openedAt other.first added.length)) where
  sameLines := by
    have blockOrdered := (bounds_of_find? found).1
    have remains := find?_excise_of_apart found ordered apart
    have spares := apart.spares_closed ordered blockOrdered.le
    rw [linesIn_insert remains foreign spares, linesIn_excise found ordered apart]
  sameFingerprint :=
    rfl
  place := by
    have blockOrdered := (bounds_of_find? found).1
    have length := length_excise ordered within
    rw [length_insert]
    simp only [moved_first, moved_last]
    rcases apart with above | below
    · right
      rw [closedAt_of_le (by omega), closedAt_of_le (by omega), openedAt_of_le (by omega),
        openedAt_of_le (by omega)]
      omega
    · left
      rw [closedAt_of_lt (by omega), closedAt_of_lt below, openedAt_of_lt (by omega),
        openedAt_of_lt below]
      exact ⟨rfl, rfl⟩

end Lines

end Block

namespace Merge

variable {text : String} {own other : Tag} {block : Block}

/--
Whether a call leaves room for a block of another tag: the block of the call, if there is one,
shares no line with it, and a fresh block is not put between two of its lines.
-/
def Call.StaysOutOf (text : String) (block : Block) : Call → Prop
  | .addOrUpdate tag anchor _ _ =>
      match Block.find? tag (Text.lines text) with
      | some existing => existing.Apart block
      | none => ∀ index, anchor.insertionIndex text = .ok index → Block.Spares index block
  | .remove tag =>
      ∀ existing, Block.find? tag (Text.lines text) = some existing → existing.Apart block

/-- What becomes of the block of a tag from one text to another: it is shifted, or still absent. -/
structure Preserved (tag : Tag) (before after : String) (mayMove : Block → Prop) : Prop where
  shifted :
    ∀ block, Block.find? tag (Text.lines before) = some block → mayMove block →
      ∃ later,
        Block.find? tag (Text.lines after) = some later ∧
          Block.Shifted (Text.lines before) (Text.lines after) block later
  absent :
    Block.find? tag (Text.lines before) = none → Block.find? tag (Text.lines after) = none

/-- A merge of one tag preserves the block of every other tag that it leaves room for. -/
theorem Outcome.preserved
    {anchor : Anchor}
    {payload : String}
    {style : CommentStyle}
    {result : MergeResult}
    (outcome : Outcome text own anchor payload style result)
    (different : other ≠ own)
    (clean : style.Clean)
    (ownUnmarked : Marker.Unmarked own.chars)
    (payloadUnmarked : Marker.Unmarked payload.toList) :
    Preserved other text result.contents
      ((Call.addOrUpdate own anchor payload style).StaysOutOf text) := by
  have foreign : ∀ returns isLast,
      ∀ line ∈ written returns isLast own payload style, Marker.Foreign other line :=
    fun returns isLast =>
      (generated_written clean ownUnmarked payloadUnmarked returns isLast).foreign different
  have fedless : ∀ line ∈ Text.lines text, '\n' ∉ line :=
    fun _ => Text.notMem_of_mem_lines
  cases outcome with
  | fresh index absent located =>
      constructor
      · intro block found room
        simp only [Call.StaysOutOf, absent] at room
        rw [lines_ofLines_placed clean.lacksFeed fedless, placed,
          Block.find?_insert (foreign _ _), found]
        exact ⟨_, rfl, Block.shifted_opened found (foreign _ _) (room index located)⟩
      · intro noBlock
        rw [lines_ofLines_placed clean.lacksFeed fedless, placed, Block.find?_insert (foreign _ _),
          noBlock]
        rfl
  | kept =>
      exact ⟨fun block found _ => ⟨block, found, .refl _ block⟩, id⟩
  | replaced existing wasFound _ =>
      have bounds := Block.bounds_of_find? wasFound
      have ordered := bounds.1.le
      have outsideFedless : ∀ line ∈ existing.excise (Text.lines text), '\n' ∉ line :=
        existing.forall_mem_excise fedless
      constructor
      · intro block found apart
        simp only [Call.StaysOutOf, wasFound] at apart
        rw [lines_ofLines_placed clean.lacksFeed outsideFedless, placed,
          Block.find?_insert (foreign _ _), Block.find?_excise_of_apart found ordered apart]
        exact
          ⟨_, rfl, Block.shifted_replaced found (foreign _ _) ordered bounds.2 apart⟩
      · intro noBlock
        rw [lines_ofLines_placed clean.lacksFeed outsideFedless, placed,
          Block.find?_insert (foreign _ _), Block.find?_excise_of_absent noBlock ordered]
        rfl

/-- Taking out one tag preserves the block of every other tag that it leaves room for. -/
theorem removeTagged_preserved (text : String) (own other : Tag) :
    Preserved other text (removeTagged text own).contents
      ((Call.remove own).StaysOutOf text) := by
  simp only [removeTagged]
  cases wasFound : Block.find? own (Text.lines text) with
  | none =>
      exact ⟨fun block found _ => ⟨block, found, .refl _ block⟩, id⟩
  | some existing =>
      have bounds := Block.bounds_of_find? wasFound
      have ordered := bounds.1.le
      have fedless : ∀ line ∈ existing.excise (Text.lines text), '\n' ∉ line :=
        existing.forall_mem_excise fun _ => Text.notMem_of_mem_lines
      constructor
      · intro block found room
        have apart := room existing wasFound
        have laterFound := Block.find?_excise_of_apart found ordered apart
        have nonempty : existing.excise (Text.lines text) ≠ [] :=
          List.ne_nil_of_length_pos (Nat.zero_lt_of_lt (Block.bounds_of_find? laterFound).2)
        simp only [Text.lines_ofLines nonempty fedless]
        exact ⟨_, laterFound, Block.shifted_closed found ordered bounds.2 apart⟩
      · intro noBlock
        simp only [Block.find?_lines_ofLines fedless]
        exact Block.find?_excise_of_absent noBlock ordered

/--
A call that succeeds preserves the block of every other tag: if the call leaves room for it, it has
the same lines and the same fingerprint and is only shifted, and if there was none, there is none.
-/
theorem Call.preserves_other
    {call : Call}
    {result : MergeResult}
    (different : other ≠ own)
    (ownUnmarked : Marker.Unmarked own.chars)
    (allowed : call.Allowed [own])
    (ran : call.run text = .ok result) :
    Preserved other text result.contents (call.StaysOutOf text) := by
  cases call with
  | addOrUpdate tag anchor payload style =>
      obtain ⟨isOwn, payloadUnmarked, clean⟩ := allowed
      obtain rfl : tag = own := List.mem_singleton.mp isOwn
      exact
        (addOrUpdate_name_eq_ok_iff.mp ran).preserved different clean ownUnmarked
          payloadUnmarked
  | remove tag =>
      obtain rfl : tag = own := List.mem_singleton.mp allowed
      rw [Call.run, remove_name_eq, Except.ok.injEq] at ran
      subst ran
      exact removeTagged_preserved text tag other

/-- A tag that another one starts with. -/
def shortTag : Tag := ⟨"s", by decide⟩

/-- A tag that starts with the other one. -/
def longTag : Tag := ⟨"s-t", by decide⟩

/-- A text with a block of the longer tag, and an end marker of the shorter one in it. -/
def longTagText : String :=
  "x\r\n# @generated begin s-t -\r\n# @generated end s\r\n# @generated end s-t\r\n"

/-- A call that puts a block of the shorter tag right above that of the longer one. -/
def shortTagCall : Call :=
  .addOrUpdate shortTag (.literal "x" .after "") "p" .default

/--
A fresh block right above that of a longer tag, which has an end marker of the shorter one in it.
-/
theorem Call.preserves_other_longer_tag :
    ∃ result later,
      shortTagCall.run longTagText = .ok result ∧
        Block.find? longTag (Text.lines result.contents) = some later ∧
        Block.Shifted (Text.lines longTagText) (Text.lines result.contents) ⟨1, 3, none⟩
          later := by
  have absent : Block.find? shortTag (Text.lines longTagText) = none := by
    decide
  have located : (Anchor.literal "x" .after "").insertionIndex longTagText = .ok 1 := by
    decide
  have outcome : Outcome longTagText shortTag (.literal "x" .after "") "p" .default _ :=
    .fresh 1 absent located
  have ran : shortTagCall.run longTagText = .ok _ :=
    addOrUpdate_name_eq_ok_iff.mpr outcome
  have allowed : shortTagCall.Allowed [shortTag] :=
    ⟨by decide, Marker.unmarked_of_notMem (by decide), CommentStyle.clean_default⟩
  have different : longTag ≠ shortTag := by
    decide
  have room : shortTagCall.StaysOutOf longTagText ⟨1, 3, none⟩ := by
    simp only [shortTagCall, Call.StaysOutOf, absent]
    intro index isPlace
    rw [located, Except.ok.injEq] at isPlace
    subst index
    exact Or.inl (Nat.le_refl 1)
  have preserved :=
    Call.preserves_other different (Marker.unmarked_of_notMem (by decide)) allowed ran
  obtain ⟨later, found, shifted⟩ := preserved.shifted ⟨1, 3, none⟩ (by decide) room
  exact ⟨_, later, ran, found, shifted⟩

end Merge

end BlockSync
