import BlockSync.Proofs.Merge.Insertion

namespace BlockSync

/-!
# Insertions commute

Two insertions of different tags write the same text in either order, unless they are to stand on
the same side of the same line.  Their blocks land in a fixed order: the one that lands later moves
down by the length of the other one, and the one that lands earlier stays where it is.
-/

/-- Lines that are put in at two places are put in at them in either order. -/
theorem Text.insert_insert
    {lines : List Line}
    {early late : Nat}
    (ordered : early ≤ late)
    (within : late ≤ lines.length)
    (upper lower : List Line) :
    let below := lines.take early ++ (upper ++ lines.drop early)
    let above := lines.take late ++ (lower ++ lines.drop late)
    below.take (late + upper.length) ++ (lower ++ below.drop (late + upper.length)) =
      above.take early ++ (upper ++ above.drop early) := by
  intro below above
  obtain ⟨top, rest, rfl, rfl⟩ : ∃ top rest, lines = top ++ rest ∧ top.length = early :=
    ⟨lines.take early, lines.drop early, by simp, by simp; omega⟩
  obtain ⟨gap, rfl⟩ := Nat.exists_eq_add_of_le ordered
  have belowShape : below = (top ++ upper) ++ rest := by
    simp [below]
  have aboveShape : above = top ++ (rest.take gap ++ (lower ++ rest.drop gap)) := by
    simp only [above, List.take_length_add_append, List.drop_length_add_append,
      List.append_assoc]
  have place : top.length + gap + upper.length = (top ++ upper).length + gap := by
    rw [List.length_append]
    omega
  rw [belowShape, aboveShape, place, List.take_length_add_append, List.drop_length_add_append,
    List.take_left, List.drop_left]
  simp only [List.append_assoc]

namespace Merge.Insertion

variable {first second : Insertion} {text : String} {firstLine secondLine : Nat}

/-- Whether the block of one insertion lands above that of another one. -/
def LandsAbove (first second : Insertion) (firstLine secondLine : Nat) : Prop :=
  first.anchor.indexBeside firstLine < second.anchor.indexBeside secondLine ∨
    first.anchor.indexBeside firstLine = second.anchor.indexBeside secondLine ∧
      first.anchor.placement = .after ∧ second.anchor.placement = .before

/-- Of two blocks one lands above the other one, unless they are put on one side of one line. -/
theorem landsAbove_total
    (apart : ¬ (firstLine = secondLine ∧ first.anchor.placement = second.anchor.placement)) :
    LandsAbove first second firstLine secondLine ∨
      LandsAbove second first secondLine firstLine := by
  simp only [LandsAbove, Anchor.indexBeside]
  cases firstSide : first.anchor.placement <;> cases secondSide : second.anchor.placement
  all_goals
    simp only [firstSide, secondSide, and_true, reduceCtorEq, and_false, and_self] at apart ⊢
    omega

/-- The block that lands above another one has a line of the text below it. -/
theorem LandsAbove.lt_length
    (above : LandsAbove first second firstLine secondLine)
    (secondFits : second.Fits text secondLine) :
    first.anchor.indexBeside firstLine < (Text.lines text).length := by
  have inText := secondFits.line_lt
  have within := secondFits.index_le
  rcases above with earlier | ⟨same, _, isBefore⟩
  · omega
  · rw [Anchor.indexBeside, Anchor.indexBeside, isBefore] at same
    rw [Anchor.indexBeside, same]
    exact inText

/-- A block that lands below another one lands as many lines lower as the other one has. -/
theorem LandsAbove.indexBeside_lower
    (above : LandsAbove first second firstLine secondLine)
    (count : Nat) :
    second.anchor.indexBeside
        (Block.openedAt (first.anchor.indexBeside firstLine) count secondLine) =
      second.anchor.indexBeside secondLine + count := by
  have movesDown : first.anchor.indexBeside firstLine ≤ secondLine := by
    rcases above with earlier | ⟨same, _, isBefore⟩
    · revert earlier
      generalize first.anchor.indexBeside firstLine = place
      rw [Anchor.indexBeside]
      split <;> omega
    · rw [same, Anchor.indexBeside, isBefore]
  rw [Block.openedAt_of_le movesDown, Anchor.indexBeside, Anchor.indexBeside]
  split <;> omega

/-- A block that lands above another one is not moved by it. -/
theorem LandsAbove.indexBeside_upper
    (above : LandsAbove first second firstLine secondLine)
    (count : Nat) :
    first.anchor.indexBeside
        (Block.openedAt (second.anchor.indexBeside secondLine) count firstLine) =
      first.anchor.indexBeside firstLine := by
  have stays : firstLine < second.anchor.indexBeside secondLine := by
    rcases above with earlier | ⟨same, isAfter, _⟩
    · revert earlier
      generalize second.anchor.indexBeside secondLine = place
      rw [Anchor.indexBeside]
      split <;> omega
    · rw [← same, Anchor.indexBeside, isAfter]
      exact Nat.lt_succ_self firstLine
  rw [Block.openedAt_of_lt stays]

/-- Two blocks are placed in either order, if a line stands below the upper one. -/
theorem placedIn_placedIn
    {lines : List Text.Line}
    {early late : Nat}
    (ordered : early ≤ late)
    (within : late ≤ lines.length)
    (followed : early < lines.length)
    (returns : Bool) :
    second.placedIn returns (first.placedIn returns lines early)
        (late + ((Text.lines first.payload).length + 2)) =
      first.placedIn returns (second.placedIn returns lines late) early := by
  have lengths :
      (first.placedIn returns lines early).length =
          lines.length + ((Text.lines first.payload).length + 2) ∧
        (second.placedIn returns lines late).length =
          lines.length + ((Text.lines second.payload).length + 2) := by
    constructor <;>
      rw [placedIn, placed, List.length_append, List.length_append, length_written,
        List.length_take, List.length_drop] <;>
      omega
  -- Whether a line follows each of the blocks does not depend on the order.
  have lowerLast :
      decide ((first.placedIn returns lines early).length ≤
          late + ((Text.lines first.payload).length + 2)) =
        decide (lines.length ≤ late) := by
    simp only [lengths.1, Nat.add_le_add_iff_right]
  have upperLast :
      decide ((second.placedIn returns lines late).length ≤ early) =
        decide (lines.length ≤ early) := by
    rw [lengths.2, decide_eq_false (by omega), decide_eq_false (by omega)]
  have inserted :=
    Text.insert_insert ordered within
      (written returns (decide (lines.length ≤ early)) first.tag first.payload first.style)
      (written returns (decide (lines.length ≤ late)) second.tag second.payload second.style)
  rw [length_written] at inserted
  rw [placedIn, placed, lowerLast]
  conv_rhs => rw [placedIn, placed, upperLast]
  exact inserted

/-- Two insertions commute, if the block of the first one lands above that of the second one. -/
private theorem exists_both_of_landsAbove
    (finalReturnless : ∀ last ∈ (Text.lines text).getLast?, last.getLast? ≠ some '\r')
    (different : first.tag ≠ second.tag)
    (firstPlain : first.Plain)
    (secondPlain : second.Plain)
    (firstFits : first.Fits text firstLine)
    (secondFits : second.Fits text secondLine)
    (firstIgnores : first.Ignores second)
    (secondIgnores : second.Ignores first)
    (above : LandsAbove first second firstLine secondLine) :
    ∃ afterFirst afterSecond both,
      first.run text = .ok ⟨afterFirst, true, false⟩ ∧
        second.run afterFirst = .ok ⟨both, true, false⟩ ∧
        second.run text = .ok ⟨afterSecond, true, false⟩ ∧
        first.run afterSecond = .ok ⟨both, true, false⟩ := by
  have fedless : ∀ line ∈ Text.lines text, '\n' ∉ line :=
    fun _ => Text.notMem_of_mem_lines
  have ordered :
      first.anchor.indexBeside firstLine ≤ second.anchor.indexBeside secondLine := by
    rcases above with earlier | ⟨same, _⟩
    · exact earlier.le
    · exact same.le
  let returns := usesReturns (Text.lines text)
  have secondStillFits :=
    secondFits.after firstFits firstPlain different secondIgnores returns
  have firstStillFits :=
    firstFits.after secondFits secondPlain different.symm firstIgnores returns
  have secondRun := secondStillFits.run_eq
  have firstRun := firstStillFits.run_eq
  rw [placedIn, lines_ofLines_placed firstPlain.clean.lacksFeed fedless, ← placedIn,
    firstPlain.usesReturns_placedIn finalReturnless, above.indexBeside_lower] at secondRun
  rw [placedIn, lines_ofLines_placed secondPlain.clean.lacksFeed fedless, ← placedIn,
    secondPlain.usesReturns_placedIn finalReturnless, above.indexBeside_upper] at firstRun
  have followed := above.lt_length secondFits
  rw [placedIn_placedIn ordered secondFits.index_le followed] at secondRun
  exact ⟨_, _, _, firstFits.run_eq, secondRun, secondFits.run_eq, firstRun⟩

/--
Two insertions into a text that does not end in a carriage return write a fresh block each.  In
either order the text is the same in the end, if they are not to stand on the same side of the same
line and the anchor of each of them ignores the block of the other one.
-/
theorem run_comm
    (finalReturnless : text.toList.getLast? ≠ some '\r')
    (different : first.tag ≠ second.tag)
    (firstPlain : first.Plain)
    (secondPlain : second.Plain)
    (firstFits : first.Fits text firstLine)
    (secondFits : second.Fits text secondLine)
    (apart : ¬ (firstLine = secondLine ∧ first.anchor.placement = second.anchor.placement))
    (firstIgnores : first.Ignores second)
    (secondIgnores : second.Ignores first) :
    ∃ afterFirst afterSecond both,
      first.run text = .ok ⟨afterFirst, true, false⟩ ∧
        second.run afterFirst = .ok ⟨both, true, false⟩ ∧
        second.run text = .ok ⟨afterSecond, true, false⟩ ∧
        first.run afterSecond = .ok ⟨both, true, false⟩ := by
  have lastReturnless :
      ∀ last ∈ (Text.lines text).getLast?, last.getLast? ≠ some '\r' := by
    intro last isLast endsInReturn
    obtain ⟨above, shape⟩ := Text.suffix_of_mem_getLast?_lines isLast
    apply finalReturnless
    rw [← shape, List.getLast?_append, endsInReturn]
    rfl
  rcases landsAbove_total apart with firstAbove | secondAbove
  · exact
      exists_both_of_landsAbove lastReturnless different firstPlain secondPlain firstFits
        secondFits firstIgnores secondIgnores firstAbove
  · obtain ⟨afterSecond, afterFirst, both, secondAlone, firstLater, firstAlone, secondLater⟩ :=
      exists_both_of_landsAbove lastReturnless different.symm secondPlain firstPlain secondFits
        firstFits secondIgnores firstIgnores secondAbove
    exact ⟨afterFirst, afterSecond, both, firstAlone, secondLater, secondAlone, firstLater⟩

/-- An insertion below the first line of a text. -/
def belowFirst : Insertion :=
  ⟨firstTag, .literal "x" .after "", "p", .default⟩

/-- An insertion above the second line of a text. -/
def aboveSecond : Insertion :=
  ⟨secondTag, .literal "z" .before "", "q", .default⟩

/-- Two insertions between the same two lines, which end in carriage returns. -/
theorem run_comm_between :
    ∃ afterFirst afterSecond both,
      belowFirst.run "x\r\nz\r\n" = .ok ⟨afterFirst, true, false⟩ ∧
        aboveSecond.run afterFirst = .ok ⟨both, true, false⟩ ∧
        aboveSecond.run "x\r\nz\r\n" = .ok ⟨afterSecond, true, false⟩ ∧
        belowFirst.run afterSecond = .ok ⟨both, true, false⟩ := by
  have unmarked : ∀ {text : List Char}, '@' ∉ text → Marker.Unmarked text :=
    Marker.unmarked_of_notMem
  have belowPlain : belowFirst.Plain :=
    ⟨unmarked (by decide), unmarked (by decide), CommentStyle.clean_default, by decide,
      by decide⟩
  have abovePlain : aboveSecond.Plain :=
    ⟨unmarked (by decide), unmarked (by decide), CommentStyle.clean_default, by decide,
      by decide⟩
  have belowLacks : ∀ line ∈ belowFirst.block, 'z' ∉ line :=
    notMem_render (by decide) (by decide) (by decide) (by decide)
  have aboveLacks : ∀ line ∈ aboveSecond.block, 'x' ∉ line :=
    notMem_render (by decide) (by decide) (by decide) (by decide)
  have belowFits : belowFirst.Fits "x\r\nz\r\n" 0 :=
    ⟨by decide, by decide⟩
  have aboveFits : aboveSecond.Fits "x\r\nz\r\n" 1 :=
    ⟨by decide, by decide⟩
  exact
    run_comm (by decide) (by decide) belowPlain abovePlain belowFits aboveFits (by decide)
      (ignores_of_notMem rfl (by decide) aboveLacks)
      (ignores_of_notMem rfl (by decide) belowLacks)

end Merge.Insertion

end BlockSync
