import BlockSync.Proofs.Merge.Insertion

namespace BlockSync

/-!
# Line ends around a block

A block is written with the line ends that its text has at the time.  A block that is put into a
text whose line feeds stand alone brings carriage returns in front of line feeds in two cases only:
a line of its payload ends in one, or it is put behind a last line that does.  Blocks with the same
content are the same text exactly if they were written with the same line ends.
-/

namespace Text

/-- Whether a line ends in a carriage return. -/
def endsInReturn (line : Line) : Bool :=
  line.getLast? == some '\r'

/-- A line without carriage returns does not end in one. -/
theorem endsInReturn_of_notMem
    {line : Line}
    (returnless : '\r' ∉ line) :
    endsInReturn line = false := by
  rw [← Bool.not_eq_true, endsInReturn, beq_iff_eq]
  exact fun isReturn => returnless (List.mem_of_getLast? isReturn)

/-- Lines use carriage returns if one of those above others does, or the others do. -/
theorem usesReturns_append
    (above : List Line)
    {below : List Line}
    (nonempty : below ≠ []) :
    Merge.usesReturns (above ++ below) =
      (above.any endsInReturn || Merge.usesReturns below) := by
  rw [Merge.usesReturns, List.dropLast_append_of_ne_nil nonempty, List.any_append]
  rfl

/-- Whether the last line ends in a carriage return makes no difference. -/
theorem usesReturns_concat
    (above : List Line)
    (last : Line) :
    Merge.usesReturns (above ++ [last]) = above.any endsInReturn := by
  rw [usesReturns_append above (List.cons_ne_nil last [])]
  exact Bool.or_false _

/-- Among lines that use no carriage returns, only the last one can end in one. -/
theorem any_endsInReturn_of_unused
    {lines : List Line}
    (unused : Merge.usesReturns lines = false) :
    lines.any endsInReturn = lines.getLast?.any endsInReturn := by
  cases lines using List.reverseRecOn with
  | nil =>
      rfl
  | append_singleton above last =>
      rw [usesReturns_concat] at unused
      simp [unused]

/-- A text ends in a carriage return exactly if its last line does. -/
theorem endsInReturn_getLast?_lines (text : String) :
    (lines text).getLast?.any endsInReturn = decide (text.toList.getLast? = some '\r') := by
  obtain ⟨above, last, shape⟩ :=
    (List.eq_nil_or_concat' (lines text)).resolve_left (lines_ne_nil text)
  have joined : joinWith '\n' (above ++ [last]) = text.toList := by
    rw [← shape]
    exact joinWith_splitOn '\n' text.toList
  rw [shape, ← joined, List.getLast?_concat, Option.any_some, endsInReturn]
  cases last using List.reverseRecOn with
  | append_singleton earlier c =>
      obtain ⟨before, whole⟩ := suffix_joinWith_concat '\n' above (earlier ++ [c])
      rw [← whole, ← List.append_assoc, List.getLast?_concat, List.getLast?_concat]
      exact Bool.beq_eq_decide_eq _ _
  | nil =>
      -- Behind the last line feed there is nothing, so the text ends in that feed or is empty.
      cases above with
      | nil =>
          rfl
      | cons first rest =>
          have ends : joinWith '\n' ((first :: rest) ++ [[]]) =
              (first ++ rest.flatMap ('\n' :: ·)) ++ ['\n'] := by
            simp [joinWith]
          rw [ends, List.getLast?_concat]
          rfl

/-- Lines end alike exactly if both or neither have a carriage return. -/
theorem ending_eq_ending_iff {first second : Bool} :
    ending first = ending second ↔ first = second := by
  cases first <;> cases second <;> decide

end Text

namespace Merge

variable {tag : Tag} {payload : String} {style : CommentStyle} {lines : List Text.Line}
  {index : Nat}

/-- A block is written in the same lines exactly if all its lines end alike. -/
theorem written_eq_written_iff
    {returns isLast others isOtherLast : Bool} :
    written returns isLast tag payload style = written others isOtherLast tag payload style ↔
      returns = others ∧ (returns && !isLast) = (others && !isOtherLast) := by
  rw [written_eq, written_eq, List.cons.injEq, List.append_cancel_left_eq,
    Text.ending_eq_ending_iff]
  constructor
  · rintro ⟨rfl, sameBelow⟩
    rw [List.append_cancel_left_eq, List.cons.injEq, List.append_cancel_left_eq,
      Text.ending_eq_ending_iff] at sameBelow
    exact ⟨rfl, sameBelow.1⟩
  · rintro ⟨rfl, sameEnd⟩
    rw [sameEnd]
    exact ⟨rfl, rfl⟩

/-- Texts that differ in one block only are equal exactly if the block is written alike in both. -/
theorem ofLines_around_written_iff
    {above below : List Text.Line}
    (lacksFeed : style.Lacks '\n')
    (fedless : ∀ line ∈ above ++ below, '\n' ∉ line)
    {returns isLast others isOtherLast : Bool} :
    Text.ofLines (above ++ (written returns isLast tag payload style ++ below)) =
        Text.ofLines (above ++ (written others isOtherLast tag payload style ++ below)) ↔
      returns = others ∧ (returns && !isLast) = (others && !isOtherLast) := by
  have readBack : ∀ returns isLast,
      Text.lines
          (Text.ofLines (above ++ (written returns isLast tag payload style ++ below))) =
        above ++ (written returns isLast tag payload style ++ below) := by
    intro returns isLast
    apply Text.lines_ofLines
    · simp [written_eq]
    · intro line member
      simp only [List.mem_append] at member
      rcases member with isAbove | isWritten | isBelow
      · exact fedless line (List.mem_append_left _ isAbove)
      · exact fedless_written lacksFeed tag payload _ _ line isWritten
      · exact fedless line (List.mem_append_right _ isBelow)
  rw [← written_eq_written_iff]
  constructor
  · intro same
    have sameLines := congrArg Text.lines same
    rw [readBack, readBack, List.append_cancel_left_eq, List.append_cancel_right_eq] at sameLines
    exact sameLines
  · intro same
    rw [same]

/-- Only the payload of a rendered block can bring lines that end in a carriage return. -/
private theorem any_endsInReturn_render
    (styleReturnless : style.Lacks '\r')
    (tag : Tag)
    (payload : String) :
    (Block.render tag payload style).any Text.endsInReturn =
        (Text.lines payload).any Text.endsInReturn ∧
      usesReturns (Block.render tag payload style) =
        (Text.lines payload).any Text.endsInReturn := by
  have notInTag : '\r' ∉ tag.chars :=
    Marker.notMem_chars_of_isBlank (by decide) tag
  have beginReturnless :
      Text.endsInReturn (Marker.renderBegin tag.name payload style) = false :=
    Text.endsInReturn_of_notMem
      (Marker.notMem_renderBegin (by decide) notInTag styleReturnless payload)
  have endReturnless : Text.endsInReturn (Marker.renderEnd tag.name style) = false :=
    Text.endsInReturn_of_notMem
      (Marker.notMem_renderEnd (by decide) notInTag styleReturnless)
  constructor
  · simp [Block.render, beginReturnless, endReturnless]
  · rw [Block.render, ← List.cons_append, Text.usesReturns_concat, List.any_cons,
      beginReturnless, Bool.false_or]

/--
A text whose line feeds stand alone gets carriage returns in front of them by a block with such
line ends in its payload, or by one behind a last line that ends in a carriage return.
-/
theorem usesReturns_placed_of_unused
    (styleReturnless : style.Lacks '\r')
    (unused : usesReturns lines = false)
    (within : index ≤ lines.length)
    (tag : Tag)
    (payload : String) :
    usesReturns (placed false lines index tag payload style) =
      ((Text.lines payload).any Text.endsInReturn ||
        (decide (index = lines.length) && lines.getLast?.any Text.endsInReturn)) := by
  obtain ⟨anyRender, rendered⟩ := any_endsInReturn_render styleReturnless tag payload
  have plain : ∀ isLast,
      written false isLast tag payload style = Block.render tag payload style :=
    fun _ => rfl
  have nonempty : Block.render tag payload style ≠ [] :=
    List.cons_ne_nil _ _
  rw [placed, plain]
  by_cases behind : index = lines.length
  · rw [behind, List.take_length, List.drop_length, List.append_nil,
      Text.usesReturns_append lines nonempty, Text.any_endsInReturn_of_unused unused, rendered,
      decide_eq_true rfl, Bool.true_and, Bool.or_comm]
  · have restNonempty : lines.drop index ≠ [] :=
      List.ne_nil_of_length_pos (by rw [List.length_drop]; omega)
    have unusedParts := unused
    rw [← List.take_append_drop index lines, Text.usesReturns_append _ restNonempty,
      Bool.or_eq_false_iff] at unusedParts
    rw [Text.usesReturns_append _ (List.append_ne_nil_of_left_ne_nil nonempty _),
      Text.usesReturns_append _ restNonempty, unusedParts.1, unusedParts.2, anyRender,
      decide_eq_false behind]
    simp

namespace Insertion

variable {insertion : Insertion} {text : String} {line : Nat}

/-- The lines of a file with the block in front of one of them, written as a last block or not. -/
def writtenIn
    (insertion : Insertion)
    (returns isLast : Bool)
    (lines : List Text.Line)
    (index : Nat) :
    List Text.Line :=
  lines.take index ++
    (written returns isLast insertion.tag insertion.payload insertion.style ++ lines.drop index)

/-- A block that is placed is written as a last one if no line of the file follows it. -/
theorem placedIn_eq_writtenIn
    (insertion : Insertion)
    (returns : Bool)
    (lines : List Text.Line)
    (index : Nat) :
    insertion.placedIn returns lines index =
      insertion.writtenIn returns (decide (lines.length ≤ index)) lines index :=
  rfl

/-- A block in front of one line makes the same text exactly if its lines end alike. -/
theorem ofLines_writtenIn_iff
    {insertion : Insertion}
    {lines : List Text.Line}
    {returns isLast others isOtherLast : Bool}
    (lacksFeed : insertion.style.Lacks '\n')
    (fedless : ∀ line ∈ lines, '\n' ∉ line)
    (index : Nat) :
    Text.ofLines (insertion.writtenIn returns isLast lines index) =
        Text.ofLines (insertion.writtenIn others isOtherLast lines index) ↔
      returns = others ∧ (returns && !isLast) = (others && !isOtherLast) := by
  rw [← List.take_append_drop index lines] at fedless
  exact ofLines_around_written_iff lacksFeed fedless

/-- A block that is placed makes the same text exactly if its lines have the same ends. -/
theorem ofLines_placedIn_iff
    {insertion : Insertion}
    {lines : List Text.Line}
    {returns others : Bool}
    (lacksFeed : insertion.style.Lacks '\n')
    (fedless : ∀ line ∈ lines, '\n' ∉ line)
    (index : Nat) :
    Text.ofLines (insertion.placedIn returns lines index) =
        Text.ofLines (insertion.placedIn others lines index) ↔
      returns = others := by
  rw [placedIn_eq_writtenIn, placedIn_eq_writtenIn, ofLines_writtenIn_iff lacksFeed fedless,
    and_iff_left_iff_imp]
  intro same
  rw [same]

/-- Whether an insertion puts its block behind the last line of a text. -/
def LandsLast (insertion : Insertion) (text : String) (line : Nat) : Prop :=
  insertion.anchor.indexBeside line = (Text.lines text).length

/-- Whether a block lands behind the last line can be computed. -/
instance (insertion : Insertion) (text : String) (line : Nat) :
    Decidable (insertion.LandsLast text line) :=
  inferInstanceAs (Decidable (_ = _))

/-- Whether an insertion puts line feeds behind carriage returns. -/
def BringsReturns (insertion : Insertion) (text : String) (line : Nat) : Prop :=
  (∃ content ∈ Text.lines insertion.payload, Text.endsInReturn content = true) ∨
    insertion.LandsLast text line ∧ text.toList.getLast? = some '\r'

/-- Whether line feeds are put behind carriage returns can be computed. -/
instance (insertion : Insertion) (text : String) (line : Nat) :
    Decidable (insertion.BringsReturns text line) :=
  inferInstanceAs (Decidable (_ ∨ _))

/-- A text has carriage returns in front of line feeds if it had some or if a block brings some. -/
theorem Fits.usesReturns_placedIn_eq
    (fits : insertion.Fits text line)
    (styleReturnless : insertion.style.Lacks '\r') :
    usesReturns
        (insertion.placedIn (usesReturns (Text.lines text)) (Text.lines text)
          (insertion.anchor.indexBeside line)) =
      (usesReturns (Text.lines text) || decide (insertion.BringsReturns text line)) := by
  cases used : usesReturns (Text.lines text) with
  | true =>
      rw [Bool.true_or]
      exact usesReturns_placed_of_used used _ _ _ _ _
  | false =>
      rw [placedIn, usesReturns_placed_of_unused styleReturnless used fits.index_le,
        Text.endsInReturn_getLast?_lines, Bool.false_or, Bool.eq_iff_iff, decide_eq_true_iff,
        BringsReturns, LandsLast]
      simp only [Bool.or_eq_true, Bool.and_eq_true, decide_eq_true_iff, List.any_eq_true]

end Insertion

end Merge

end BlockSync
