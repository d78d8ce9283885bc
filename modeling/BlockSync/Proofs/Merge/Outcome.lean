import BlockSync.Proofs.Block.Named
import BlockSync.Proofs.Except
import BlockSync.Proofs.Merge.Written

namespace BlockSync

/-!
# Outcomes of a merge

A merge that succeeds places a fresh block, keeps a current one, or puts a new block in the place
of a stale one.  In each case the lines of the new text are given by those of the old one and the
lines of the block as they are written.
-/

/-- Tags are equal if they have the same name. -/
theorem Tag.eq_of_name_eq
    {first second : Tag}
    (same : first.name = second.name) :
    first = second :=
  Tag.eq_of_chars_eq (congrArg String.toList same)

namespace Merge

/-- The lines of a text with a block in front of one of them. -/
def placed
    (returns : Bool)
    (lines : List Text.Line)
    (index : Nat)
    (tag : Tag)
    (payload : String)
    (style : CommentStyle) :
    List Text.Line :=
  lines.take index ++
    (written returns (lines.length ≤ index) tag payload style ++ lines.drop index)

/-- Placing a block keeps the lines around it in order. -/
theorem splice_render
    (returns : Bool)
    (lines : List Text.Line)
    (index : Nat)
    (tag : Tag)
    (payload : String)
    (style : CommentStyle) :
    splice returns lines index (Block.render tag payload style) =
      placed returns lines index tag payload style := by
  simp [splice, placed, written]

/-- What a successful merge of a block comes to. -/
inductive Outcome
    (text : String)
    (tag : Tag)
    (anchor : Anchor)
    (payload : String)
    (style : CommentStyle) :
    MergeResult → Prop where
  | fresh (index : Nat) :
      Block.find? tag (Text.lines text) = none →
      anchor.insertionIndex text = .ok index →
      Outcome text tag anchor payload style
        ⟨Text.ofLines
          (placed (usesReturns (Text.lines text)) (Text.lines text) index
            tag payload style), true, false⟩
  | kept (existing : Block) :
      Block.find? tag (Text.lines text) = some existing →
      existing.isCurrent payload = true →
      Outcome text tag anchor payload style (.unchanged text)
  | replaced (existing : Block) :
      Block.find? tag (Text.lines text) = some existing →
      existing.isCurrent payload = false →
      Outcome text tag anchor payload style
        ⟨Text.ofLines
          (placed (usesReturns (Text.lines text))
            (existing.excise (Text.lines text)) existing.first
            tag payload style), true, true⟩

/-- A merge of a valid tag succeeds with nothing but its outcomes. -/
theorem addTagged_eq_ok_iff
    {text : String}
    {tag : Tag}
    {anchor : Anchor}
    {payload : String}
    {style : CommentStyle}
    {result : MergeResult} :
    addTagged text tag anchor payload style = .ok result ↔
      Outcome text tag anchor payload style result := by
  simp only [addTagged, splice_render]
  constructor
  · intro merged
    split at merged
    · next absent =>
      cases located : anchor.insertionIndex text with
      | error error =>
          rw [located] at merged
          cases merged
      | ok index =>
          rw [located] at merged
          cases merged
          exact .fresh index absent located
    · next existing found =>
      split at merged
      · next current =>
        cases merged
        exact .kept existing found current
      · next stale =>
        cases merged
        exact .replaced existing found (by simpa using stale)
  · rintro (⟨index, absent, located⟩ | ⟨existing, found, current⟩ |
      ⟨existing, found, stale⟩)
    · simp only [absent, located]
      rfl
    · simp [found, current]
    · simp [found, stale]

/-- A merge with the name of a valid tag is the merge of that tag. -/
theorem addOrUpdate_name_eq
    (text : String)
    (tag : Tag)
    (anchor : Anchor)
    (payload : String)
    (style : CommentStyle) :
    addOrUpdate text tag.name anchor payload style =
      (addTagged text tag anchor payload style).mapError .anchor := by
  rw [addOrUpdate, Tag.ofName_eq_ok_iff.mpr rfl, RawText.toText_ofString]
  rfl

/--
A merge succeeds exactly if its name is a valid tag, its payload can be encoded, and the merge of
that tag succeeds.
-/
theorem addOrUpdate_raw_eq_ok_iff
    {text name : String}
    {anchor : Anchor}
    {raw : RawText}
    {style : CommentStyle}
    {result : MergeResult} :
    addOrUpdate text name anchor raw style = .ok result ↔
      ∃ (tag : Tag) (payload : String),
        tag.name = name ∧
          raw.toText = .ok payload ∧
          Outcome text tag anchor payload style result := by
  simp only [addOrUpdate, Except.bind_eq_ok_iff, Except.mapError_eq_ok_iff,
    Tag.ofName_eq_ok_iff, addTagged_eq_ok_iff, exists_and_left]

/-- A merge succeeds exactly if its name is a valid tag and the merge of that tag succeeds. -/
theorem addOrUpdate_eq_ok_iff
    {text name : String}
    {anchor : Anchor}
    {payload : String}
    {style : CommentStyle}
    {result : MergeResult} :
    addOrUpdate text name anchor payload style = .ok result ↔
      ∃ tag : Tag, tag.name = name ∧ Outcome text tag anchor payload style result := by
  simp only [addOrUpdate_raw_eq_ok_iff, RawText.toText_ofString, Except.ok.injEq,
    exists_and_left, exists_eq_left']

/-- A payload that cannot be encoded is refused, whatever the text and the anchor are. -/
theorem addOrUpdate_of_toText_eq_error
    {raw : RawText}
    {error : EncodeError}
    (unencoded : raw.toText = .error error)
    (text : String)
    (tag : Tag)
    (anchor : Anchor)
    (style : CommentStyle) :
    addOrUpdate text tag.name anchor raw style = .error (.unencodable error) := by
  rw [addOrUpdate, Tag.ofName_eq_ok_iff.mpr rfl, unencoded]
  rfl

/-- A merge with the name of a tag is a merge of that tag. -/
theorem addOrUpdate_name_eq_ok_iff
    {text : String}
    {tag : Tag}
    {anchor : Anchor}
    {payload : String}
    {style : CommentStyle}
    {result : MergeResult} :
    addOrUpdate text tag.name anchor payload style = .ok result ↔
      Outcome text tag anchor payload style result := by
  rw [addOrUpdate_eq_ok_iff]
  constructor
  · rintro ⟨other, sameName, outcome⟩
    rwa [Tag.eq_of_name_eq sameName] at outcome
  · intro outcome
    exact ⟨tag, rfl, outcome⟩

/-- Taking out a block succeeds exactly if its name is a valid tag. -/
theorem remove_eq_ok_iff
    {text name : String}
    {result : MergeResult} :
    remove text name = .ok result ↔
      ∃ tag : Tag, tag.name = name ∧ result = removeTagged text tag := by
  simp only [remove, Except.bind_eq_ok_iff, Except.mapError_eq_ok_iff, Tag.ofName_eq_ok_iff,
    pure, Except.pure, Except.ok.injEq, @eq_comm _ result]

/-- Taking out a valid tag always succeeds. -/
theorem remove_name_eq (text : String) (tag : Tag) :
    remove text tag.name = .ok (removeTagged text tag) :=
  remove_eq_ok_iff.mpr ⟨tag, rfl, rfl⟩

/-- A block that is found is taken out. -/
theorem removeTagged_of_find?
    {text : String}
    {tag : Tag}
    {block : Block}
    (found : Block.find? tag (Text.lines text) = some block) :
    removeTagged text tag = ⟨Text.ofLines (block.excise (Text.lines text)), false, true⟩ := by
  rw [removeTagged, found]

end Merge

end BlockSync
