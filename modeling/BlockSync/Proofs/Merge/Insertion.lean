import BlockSync.Proofs.Merge.Reread

namespace BlockSync

/-!
# Insertions

An insertion whose tag has no block in a text and whose anchor matches one line of it succeeds.  An
insertion whose anchor does not match the lines of that block still fits afterwards, and it is
written with the same line ends.
-/

namespace Anchor

variable {anchor : Anchor}

/-- A line without carriage returns is matched alike whatever ends it. -/
theorem matchesLine_append_ending
    {line : Text.Line}
    (returnless : '\r' ∉ line)
    (returns : Bool) :
    anchor.matchesLine (line ++ Text.ending returns) = anchor.matchesLine line := by
  cases returns with
  | false =>
      rw [Text.ending, if_neg Bool.false_ne_true, List.append_nil]
  | true =>
      exact matchesLine_append_return returnless

/-- A place beside a line is the one in front of it or the one behind it. -/
theorem indexBeside_le (anchor : Anchor) (line : Nat) : anchor.indexBeside line ≤ line + 1 := by
  rw [indexBeside]
  split <;> omega

end Anchor

namespace Merge

/-- Carriage returns in front of line feeds are still there when a block is put in. -/
theorem usesReturns_placed_of_used
    {lines : List Text.Line}
    (used : usesReturns lines = true)
    (returns : Bool)
    (index : Nat)
    (tag : Tag)
    (payload : String)
    (style : CommentStyle) :
    usesReturns (placed returns lines index tag payload style) = true := by
  apply Text.usesReturns_of_sublist used
  conv_lhs => rw [← List.take_append_drop index lines]
  exact (List.Sublist.refl _).append (List.sublist_append_right _ _)

/-- What is to be put into a text: a payload under a tag, beside an anchor, in a comment style. -/
structure Insertion where
  tag : Tag
  anchor : Anchor
  payload : String
  style : CommentStyle

namespace Insertion

/-- Carries out an insertion. -/
def run (insertion : Insertion) (text : String) : Except MergeError MergeResult :=
  addOrUpdate text insertion.tag.name insertion.anchor insertion.payload insertion.style

/-- The lines of the block, without their line ends. -/
def block (insertion : Insertion) : List Text.Line :=
  Block.render insertion.tag insertion.payload insertion.style

/-- The lines of a file with the block in front of one of them. -/
def placedIn
    (insertion : Insertion)
    (returns : Bool)
    (lines : List Text.Line)
    (index : Nat) :
    List Text.Line :=
  placed returns lines index insertion.tag insertion.payload insertion.style

/-- An insertion that writes no markers but those of its own block, and no carriage returns. -/
structure Plain (insertion : Insertion) : Prop where
  tagUnmarked :
    Marker.Unmarked insertion.tag.chars
  payloadUnmarked :
    Marker.Unmarked insertion.payload.toList
  clean :
    insertion.style.Clean
  payloadReturnless :
    '\r' ∉ insertion.payload.toList
  styleReturnless :
    insertion.style.Lacks '\r'

/-- An insertion whose tag has no block in a text and whose anchor matches one line of it. -/
structure Fits (insertion : Insertion) (text : String) (line : Nat) : Prop where
  absent :
    Block.find? insertion.tag (Text.lines text) = none
  hits :
    insertion.anchor.hits (Text.lines text) = [line]

/-- Whether the anchor of an insertion matches no line of the block of another one. -/
def Ignores (insertion other : Insertion) : Prop :=
  ∀ line ∈ other.block, insertion.anchor.matchesLine line = false

variable {insertion other first second : Insertion} {text : String} {line : Nat}

/-- The block of a plain insertion holds no carriage return. -/
theorem Plain.returnless (plain : insertion.Plain) :
    ∀ line ∈ insertion.block, '\r' ∉ line := by
  have payloadReturnless : ∀ line ∈ Text.lines insertion.payload, '\r' ∉ line :=
    fun line member isReturn =>
      plain.payloadReturnless ((Text.infix_of_mem_lines member).subset isReturn)
  exact
    notMem_render (by decide) (Marker.notMem_chars_of_isBlank (by decide) insertion.tag)
      plain.styleReturnless payloadReturnless

/-- A literal anchor ignores a block in which one of its characters is not found. -/
theorem ignores_of_notMem
    {marker description : String}
    {placement : Placement}
    {c : Char}
    (isLiteral : insertion.anchor = .literal marker placement description)
    (member : c ∈ marker.toList)
    (notInBlock : ∀ line ∈ other.block, c ∉ line) :
    insertion.Ignores other := by
  intro line inBlock
  rw [isLiteral, ← Bool.not_eq_true, Anchor.matchesLine_literal_iff]
  intro occurs
  apply notInBlock line inBlock
  exact Text.withoutReturn_subset line (occurs.subset member)

/-- The index of the line that an anchor matches is one of the text. -/
theorem Fits.line_lt (fits : insertion.Fits text line) : line < (Text.lines text).length := by
  have member : line ∈ insertion.anchor.hits (Text.lines text) := by
    rw [fits.hits]
    exact List.mem_singleton_self line
  have bounds := Anchor.bounds_of_mem_hitsFrom member
  omega

/-- A block is put in front of a line of the text or behind its last one. -/
theorem Fits.index_le (fits : insertion.Fits text line) :
    insertion.anchor.indexBeside line ≤ (Text.lines text).length :=
  Nat.le_trans (insertion.anchor.indexBeside_le line) fits.line_lt

/-- No block is complete above the place of an insertion that fits. -/
theorem Fits.unpaired_take
    (fits : insertion.Fits text line)
    (index : Nat) :
    Block.Unpaired insertion.tag ((Text.lines text).take index) :=
  (Block.find?_eq_none_iff.mp fits.absent).sublist (List.take_sublist index _)

/-- An insertion that fits puts its block beside the line that its anchor matches. -/
theorem Fits.run_eq (fits : insertion.Fits text line) :
    insertion.run text =
      .ok ⟨Text.ofLines
        (insertion.placedIn (usesReturns (Text.lines text)) (Text.lines text)
          (insertion.anchor.indexBeside line)), true, false⟩ := by
  have located :
      insertion.anchor.insertionIndex text = .ok (insertion.anchor.indexBeside line) := by
    rw [Anchor.insertionIndex_eq, fits.hits]
  exact addOrUpdate_name_eq_ok_iff.mpr (.fresh _ fits.absent located)

/-- A plain insertion does not change whether the lines of a text use carriage returns. -/
theorem Plain.usesReturns_placedIn
    {lines : List Text.Line}
    {index : Nat}
    (plain : insertion.Plain)
    (finalReturnless : ∀ last ∈ lines.getLast?, last.getLast? ≠ some '\r') :
    usesReturns (insertion.placedIn (usesReturns lines) lines index) = usesReturns lines := by
  cases used : usesReturns lines with
  | true =>
      exact usesReturns_placed_of_used used _ _ _ _ _
  | false =>
      have hostReturnless := Text.returnless_of_usesReturns used finalReturnless
      apply Text.usesReturns_eq_false
      intro line member
      rw [placedIn, placed, List.mem_append, List.mem_append] at member
      rcases member with isAbove | isWritten | isBelow
      · exact hostReturnless line (List.mem_of_mem_take isAbove)
      · exact fun isReturn =>
          plain.returnless line isWritten (List.mem_of_getLast? isReturn)
      · exact hostReturnless line (List.mem_of_mem_drop isBelow)

/-- An insertion that fits still does so behind another one whose block its anchor ignores. -/
theorem Fits.after
    {firstLine secondLine : Nat}
    (fits : second.Fits text secondLine)
    (firstFits : first.Fits text firstLine)
    (firstPlain : first.Plain)
    (different : first.tag ≠ second.tag)
    (ignores : second.Ignores first)
    (returns : Bool) :
    second.Fits
      (Text.ofLines
        (first.placedIn returns (Text.lines text) (first.anchor.indexBeside firstLine)))
      (Block.openedAt (first.anchor.indexBeside firstLine)
        ((Text.lines first.payload).length + 2) secondLine) := by
  have fedless : ∀ line ∈ Text.lines text, '\n' ∉ line :=
    fun _ => Text.notMem_of_mem_lines
  have unmatched : ∀ isLast,
      ∀ line ∈ written returns isLast first.tag first.payload first.style,
        second.anchor.matchesLine line = false := by
    intro isLast line member
    obtain ⟨content, inBlock, ends, rfl⟩ := exists_of_mem_written member
    rw [Anchor.matchesLine_append_ending (firstPlain.returnless content inBlock)]
    exact ignores content inBlock
  constructor
  · have generated := fun isLast =>
      generated_written firstPlain.clean firstPlain.tagUnmarked firstPlain.payloadUnmarked
        returns isLast
    rw [placedIn, lines_ofLines_placed firstPlain.clean.lacksFeed fedless, placed,
      Block.find?_insert ((generated _).foreign different.symm), fits.absent]
    rfl
  · rw [placedIn, lines_ofLines_placed firstPlain.clean.lacksFeed fedless, placed,
      Anchor.hits_insert firstFits.index_le (unmatched _), fits.hits, length_written]
    rfl

/-- The tag of the first of two insertions. -/
def firstTag : Tag := ⟨"a", by decide⟩

/-- The tag of the second one. -/
def secondTag : Tag := ⟨"b", by decide⟩

end Insertion

end Merge

end BlockSync
