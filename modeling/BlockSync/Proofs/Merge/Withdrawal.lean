import BlockSync.Proofs.Merge.Commutation
import BlockSync.Proofs.Merge.Independence
import BlockSync.Proofs.Merge.LineEnds

namespace BlockSync

/-!
# Withdrawing an insertion

The first of two blocks can be taken out again, and the lines of the second one stay where they
would have been without it.  What can be left of the first one are the line ends that the second one
was written with, since these were those of the text with the first block in it.
-/

namespace Anchor

/-- A place beside a line goes down with the line when lines are put in above the line. -/
theorem indexBeside_openedAt_of_le
    (anchor : Anchor)
    {index line : Nat}
    (below : index ≤ line)
    (count : Nat) :
    index ≤ anchor.indexBeside line ∧
      anchor.indexBeside (Block.openedAt index count line) = anchor.indexBeside line + count := by
  rw [Block.openedAt_of_le below, indexBeside, indexBeside]
  split <;> omega

/-- A place beside a line stays with the line when lines are put in below the line. -/
theorem indexBeside_openedAt_of_lt
    (anchor : Anchor)
    {index line : Nat}
    (above : line < index)
    (count : Nat) :
    anchor.indexBeside line ≤ index ∧
      anchor.indexBeside (Block.openedAt index count line) = anchor.indexBeside line := by
  rw [Block.openedAt_of_lt above, indexBeside]
  split <;> omega

end Anchor

namespace Merge

/-- The only block of a tag is taken out as if it had never been put in. -/
theorem removeTagged_insert
    {lines region : List Text.Line}
    {tag : Tag}
    (absent : Block.find? tag lines = none)
    (fedless : ∀ line ∈ lines, '\n' ∉ line)
    (generated : Block.Generated tag region)
    (index : Nat) :
    removeTagged (Text.ofLines (lines.take index ++ (region ++ lines.drop index))) tag =
      ⟨Text.ofLines lines, false, true⟩ := by
  have unpaired :=
    (Block.find?_eq_none_iff.mp absent).sublist (List.take_sublist index lines)
  have stands : Block.Stands tag (lines.take index) region :=
    ⟨unpaired, generated.isRegion⟩
  have nonempty : region ≠ [] :=
    List.ne_nil_of_length_pos (Nat.zero_lt_of_lt generated.isRegion.two_le_length)
  have readBack :
      Text.lines (Text.ofLines (lines.take index ++ (region ++ lines.drop index))) =
        lines.take index ++ (region ++ lines.drop index) :=
    Text.lines_ofLines
      (List.append_ne_nil_of_right_ne_nil _ (List.append_ne_nil_of_left_ne_nil nonempty _))
      (Text.forall_mem_insert fedless generated.fedless index)
  rw [removeTagged, readBack, stands.find?_eq]
  simp only [Block.excise_ofRegion stands.isRegion, List.take_append_drop]

namespace Insertion

variable {first second : Insertion} {text : String} {firstLine secondLine : Nat}

/-- Plain insertions of different tags that fit a text, each of which ignores the other's block. -/
structure Compatible
    (first second : Insertion)
    (text : String)
    (firstLine secondLine : Nat) :
    Prop where
  different :
    first.tag ≠ second.tag
  firstPlain :
    first.Plain
  secondPlain :
    second.Plain
  firstFits :
    first.Fits text firstLine
  secondFits :
    second.Fits text secondLine
  firstIgnores :
    first.Ignores second
  secondIgnores :
    second.Ignores first

/--
Lines that are put in one after another are those that are put in first, around what is there with
the later ones only.
-/
theorem exists_place_of_earlier
    {lines : List Text.Line}
    {index line : Nat}
    (anchor : Anchor)
    (within : index ≤ lines.length)
    (inText : line < lines.length)
    (early late : List Text.Line) :
    let withEarly := lines.take index ++ (early ++ lines.drop index)
    let place := anchor.indexBeside (Block.openedAt index early.length line)
    let withLate :=
      lines.take (anchor.indexBeside line) ++ (late ++ lines.drop (anchor.indexBeside line))
    ∃ earlyPlace,
      withEarly.take place ++ (late ++ withEarly.drop place) =
        withLate.take earlyPlace ++ (early ++ withLate.drop earlyPlace) := by
  intro withEarly place withLate
  rcases Nat.lt_or_ge line index with above | below
  · obtain ⟨ordered, isPlace⟩ :=
      anchor.indexBeside_openedAt_of_lt above early.length
    refine ⟨index + late.length, ?_⟩
    have inserted := Text.insert_insert ordered within late early
    simp only [place, isPlace]
    exact inserted.symm
  · obtain ⟨ordered, isPlace⟩ :=
      anchor.indexBeside_openedAt_of_le below early.length
    have placeWithin : anchor.indexBeside line ≤ lines.length :=
      Nat.le_trans (anchor.indexBeside_le line) inText
    refine ⟨index, ?_⟩
    have inserted := Text.insert_insert ordered placeWithin early late
    simp only [place, isPlace]
    exact inserted

/-- A later block ends a file exactly if it would do so alone and the earlier one does not. -/
theorem length_le_indexBeside_openedAt_iff
    (anchor : Anchor)
    {index count line length : Nat}
    (within : index ≤ length)
    (inText : line < length)
    (positive : 0 < count) :
    length + count ≤ anchor.indexBeside (Block.openedAt index count line) ↔
      length ≤ anchor.indexBeside line ∧ index < length := by
  rcases Nat.lt_or_ge line index with above | below
  · obtain ⟨ordered, isPlace⟩ :=
      anchor.indexBeside_openedAt_of_lt above count
    have onlyNext := anchor.indexBeside_le line
    omega
  · obtain ⟨_, isPlace⟩ :=
      anchor.indexBeside_openedAt_of_le below count
    omega

/-- The block of the first insertion stands around lines with the block of the second one. -/
theorem exists_place_of_first
    {lines : List Text.Line}
    {index line : Nat}
    (within : index ≤ lines.length)
    (inText : line < lines.length)
    (first second : Insertion)
    (returns laterReturns : Bool) :
    let count := (Text.lines first.payload).length + 2
    let later := second.anchor.indexBeside line
    let withSecond :=
      second.writtenIn laterReturns (decide (lines.length ≤ later ∧ index < lines.length))
        lines later
    ∃ place,
      second.placedIn laterReturns (first.placedIn returns lines index)
          (second.anchor.indexBeside (Block.openedAt index count line)) =
        withSecond.take place ++
          (written returns (decide (lines.length ≤ index)) first.tag first.payload first.style ++
            withSecond.drop place) := by
  intro count later withSecond
  have count_eq :
      (written returns (decide (lines.length ≤ index)) first.tag first.payload
        first.style).length = count :=
    length_written returns _ first.tag first.payload first.style
  have length : (first.placedIn returns lines index).length = lines.length + count := by
    rw [placedIn, placed, Block.length_insert, count_eq]
  have isLast :=
    length_le_indexBeside_openedAt_iff second.anchor within inText
      (Nat.succ_pos ((Text.lines first.payload).length + 1))
  obtain ⟨place, shape⟩ :=
    exists_place_of_earlier second.anchor within inText
      (written returns (decide (lines.length ≤ index)) first.tag first.payload first.style)
      (written laterReturns (decide (lines.length ≤ later ∧ index < lines.length))
        second.tag second.payload second.style)
  rw [count_eq] at shape
  refine ⟨place, Eq.trans ?_ shape⟩
  rw [placedIn_eq_writtenIn, length, decide_eq_decide.mpr isLast]
  rfl

/-- What is left of two insertions once the block of the first one is taken out. -/
theorem exists_withdrawn
    (compatible : Compatible first second text firstLine secondLine) :
    let lines := Text.lines text
    let place := first.anchor.indexBeside firstLine
    let later := second.anchor.indexBeside secondLine
    let returns := usesReturns (first.placedIn (usesReturns lines) lines place)
    ∃ afterFirst both,
      first.run text = .ok ⟨afterFirst, true, false⟩ ∧
        second.run afterFirst = .ok ⟨both, true, false⟩ ∧
        remove both first.tag.name =
          .ok ⟨Text.ofLines
            (second.writtenIn returns (decide (lines.length ≤ later ∧ place < lines.length))
              lines later), false, true⟩ := by
  intro lines place later returns
  obtain ⟨different, firstPlain, secondPlain, firstFits, secondFits, _, secondIgnores⟩ :=
    compatible
  have fedless : ∀ line ∈ lines, '\n' ∉ line :=
    fun _ => Text.notMem_of_mem_lines
  have secondRun :=
    (secondFits.after firstFits firstPlain different secondIgnores (usesReturns lines)).run_eq
  rw [placedIn, lines_ofLines_placed firstPlain.clean.lacksFeed fedless, ← placedIn] at secondRun
  obtain ⟨earlyPlace, shape⟩ :=
    exists_place_of_first firstFits.index_le secondFits.line_lt first second (usesReturns lines)
      returns
  have generatedFirst :=
    generated_written firstPlain.clean firstPlain.tagUnmarked firstPlain.payloadUnmarked
      (usesReturns lines) (decide (lines.length ≤ place))
  have generatedSecond :=
    generated_written secondPlain.clean secondPlain.tagUnmarked secondPlain.payloadUnmarked
      returns (decide (lines.length ≤ later ∧ place < lines.length))
  refine ⟨_, _, firstFits.run_eq, secondRun, ?_⟩
  rw [remove_name_eq, shape, removeTagged_insert _ _ generatedFirst]
  · rw [writtenIn, Block.find?_insert (generatedSecond.foreign different), firstFits.absent]
    rfl
  · exact Text.forall_mem_insert fedless generatedSecond.fedless later

/--
Whether a first insertion changes the line ends of a second one.  It has to land behind the last
line of the text.  If the text has carriage returns in front of line feeds, the second one lands
there as well and gets a line below it; if not, the text ends in a carriage return, which gets a
line feed behind it.
-/
def LeavesTrace
    (first second : Insertion)
    (text : String)
    (firstLine secondLine : Nat) :
    Prop :=
  first.LandsLast text firstLine ∧
    if ['\r', '\n'] <:+: text.toList then
      second.LandsLast text secondLine
    else
      text.toList.getLast? = some '\r'

/-- Whether an insertion leaves a trace can be computed. -/
instance (first second : Insertion) (text : String) (firstLine secondLine : Nat) :
    Decidable (first.LeavesTrace second text firstLine secondLine) :=
  inferInstanceAs (Decidable (_ ∧ ite _ _ _))

/-- A plain insertion brings carriage returns only from the end of the text. -/
theorem Plain.bringsReturns_iff (plain : first.Plain) :
    first.BringsReturns text firstLine ↔
      first.LandsLast text firstLine ∧ text.toList.getLast? = some '\r' := by
  have payloadReturnless :
      ¬ ∃ content ∈ Text.lines first.payload, Text.endsInReturn content = true := by
    rintro ⟨content, member, endsInReturn⟩
    have returnless : '\r' ∉ content :=
      fun isReturn =>
        plain.payloadReturnless ((Text.infix_of_mem_lines member).subset isReturn)
    rw [Text.endsInReturn_of_notMem returnless] at endsInReturn
    exact Bool.false_ne_true endsInReturn
  rw [BringsReturns, or_iff_right payloadReturnless]

/--
The second block is written as it would have been alone exactly if the first one left no trace in
its line ends.
-/
theorem withdrawn_eq_alone_iff
    (compatible : Compatible first second text firstLine secondLine) :
    let lines := Text.lines text
    let place := first.anchor.indexBeside firstLine
    let later := second.anchor.indexBeside secondLine
    let returns := usesReturns (first.placedIn (usesReturns lines) lines place)
    Text.ofLines
          (second.writtenIn returns (decide (lines.length ≤ later ∧ place < lines.length))
            lines later) =
        Text.ofLines (second.placedIn (usesReturns lines) lines later) ↔
      ¬ first.LeavesTrace second text firstLine secondLine := by
  intro lines place later returns
  obtain ⟨_, firstPlain, secondPlain, firstFits, secondFits, _, _⟩ := compatible
  have fedless : ∀ line ∈ lines, '\n' ∉ line :=
    fun _ => Text.notMem_of_mem_lines
  have firstWithin : place ≤ lines.length := firstFits.index_le
  have secondWithin : later ≤ lines.length := secondFits.index_le
  have isReturns : returns = (usesReturns lines || decide (first.BringsReturns text firstLine)) :=
    firstFits.usesReturns_placedIn_eq firstPlain.styleReturnless
  rw [placedIn_eq_writtenIn second, ofLines_writtenIn_iff secondPlain.clean.lacksFeed fedless,
    isReturns, LeavesTrace]
  cases used : usesReturns lines with
  | true =>
      -- All lines end in both characters, but for the last one if nothing was below it.
      rw [if_pos (Text.usesReturns_iff.mp used)]
      simp only [Bool.true_or, Bool.true_and, true_and, Bool.not_inj_iff, decide_eq_decide]
      change _ ↔ ¬ (place = lines.length ∧ later = lines.length)
      omega
  | false =>
      have notUsed : ¬ ['\r', '\n'] <:+: text.toList := by
        rw [← Text.usesReturns_iff, used]
        exact Bool.false_ne_true
      -- Alone the second block has bare line feeds, so a single carriage return is a trace.
      rw [if_neg notUsed, ← firstPlain.bringsReturns_iff]
      by_cases brings : first.BringsReturns text firstLine
      · simp [brings]
      · simp [brings]

/--
Taking the first of two blocks out leaves what the second insertion alone would have written,
unless the first one left a trace in the line ends of the second one.
-/
theorem remove_first_eq_second_alone_iff
    (compatible : Compatible first second text firstLine secondLine) :
    ∃ afterFirst both rest alone,
      first.run text = .ok ⟨afterFirst, true, false⟩ ∧
        second.run afterFirst = .ok ⟨both, true, false⟩ ∧
        remove both first.tag.name = .ok ⟨rest, false, true⟩ ∧
        second.run text = .ok ⟨alone, true, false⟩ ∧
        (rest = alone ↔ ¬ first.LeavesTrace second text firstLine secondLine) := by
  obtain ⟨afterFirst, both, firstRun, secondRun, removed⟩ := exists_withdrawn compatible
  exact
    ⟨afterFirst, both, _, _, firstRun, secondRun, removed, compatible.secondFits.run_eq,
      withdrawn_eq_alone_iff compatible⟩

/-- An insertion of one tag below or above the line with a `z`. -/
def besideZ (tag : Tag) (placement : Placement) (payload : String) : Insertion :=
  ⟨tag, .literal "z" placement "", payload, .default⟩

/-- Such an insertion is plain if its tag and its payload are. -/
theorem plain_besideZ
    {tag : Tag}
    {payload : String}
    (tagUnmarked : '@' ∉ tag.chars)
    (payloadUnmarked : '@' ∉ payload.toList)
    (payloadReturnless : '\r' ∉ payload.toList)
    (placement : Placement) :
    (besideZ tag placement payload).Plain where
  tagUnmarked :=
    Marker.unmarked_of_notMem tagUnmarked
  payloadUnmarked :=
    Marker.unmarked_of_notMem payloadUnmarked
  clean :=
    CommentStyle.clean_default
  payloadReturnless :=
    payloadReturnless
  styleReturnless :=
    (by decide : CommentStyle.default.Lacks '\r')

/-- Such an insertion ignores a block in which there is no `z`. -/
theorem besideZ_ignores
    {tag other : Tag}
    {payload otherPayload : String}
    (notInTag : 'z' ∉ tag.chars)
    (notInPayload : ∀ line ∈ Text.lines payload, 'z' ∉ line)
    (placement otherPlacement : Placement) :
    (besideZ other otherPlacement otherPayload).Ignores (besideZ tag placement payload) := by
  have lacks : CommentStyle.default.Lacks 'z' := by
    decide
  have member : 'z' ∈ "z".toList := by
    decide
  exact ignores_of_notMem rfl member (notMem_render (by decide) notInTag lacks notInPayload)

/-- Two insertions beside the only line with a `z` are compatible. -/
theorem compatible_besideZ
    {text : String}
    {line : Nat}
    (firstAbsent : Block.find? firstTag (Text.lines text) = none)
    (secondAbsent : Block.find? secondTag (Text.lines text) = none)
    (hits : ∀ placement, (Anchor.literal "z" placement "").hits (Text.lines text) = [line])
    (firstSide secondSide : Placement) :
    Compatible (besideZ firstTag firstSide "p") (besideZ secondTag secondSide "q")
      text line line where
  different :=
    (by decide : firstTag ≠ secondTag)
  firstPlain :=
    plain_besideZ (by decide) (by decide) (by decide) firstSide
  secondPlain :=
    plain_besideZ (by decide) (by decide) (by decide) secondSide
  firstFits :=
    ⟨firstAbsent, hits firstSide⟩
  secondFits :=
    ⟨secondAbsent, hits secondSide⟩
  firstIgnores :=
    besideZ_ignores (by decide) (by decide) secondSide firstSide
  secondIgnores :=
    besideZ_ignores (by decide) (by decide) firstSide secondSide

/-- A block behind a last line that no line feed ends, and another one above that line. -/
theorem remove_first_eq_second_alone_above :
    ∃ afterFirst both alone,
      (besideZ firstTag .after "p").run "x\r\nz" = .ok ⟨afterFirst, true, false⟩ ∧
        (besideZ secondTag .before "q").run afterFirst = .ok ⟨both, true, false⟩ ∧
        remove both firstTag.name = .ok ⟨alone, false, true⟩ ∧
        (besideZ secondTag .before "q").run "x\r\nz" = .ok ⟨alone, true, false⟩ := by
  have hits : ∀ placement,
      (Anchor.literal "z" placement "").hits (Text.lines "x\r\nz") = [1] := by
    intro placement
    cases placement <;> decide
  have compatible := compatible_besideZ (by decide) (by decide) hits .after .before
  obtain ⟨afterFirst, both, rest, alone, firstRun, secondRun, removed, aloneRun, same⟩ :=
    remove_first_eq_second_alone_iff compatible
  have noTrace :
      ¬ (besideZ firstTag .after "p").LeavesTrace (besideZ secondTag .before "q")
        "x\r\nz" 1 1 := by
    decide
  rw [same.mpr noTrace] at removed
  exact ⟨afterFirst, both, alone, firstRun, secondRun, removed, aloneRun⟩

/--
Two traces: a carriage return that ends the text although no line follows it any more, and carriage
returns in a text whose last line ended in one before a line feed was put behind it.
-/
theorem remove_first_ne_second_alone :
    (Compatible (besideZ firstTag .after "p") (besideZ secondTag .after "q") "x\r\nz" 1 1 ∧
      ∃ afterFirst both rest alone,
        (besideZ firstTag .after "p").run "x\r\nz" = .ok ⟨afterFirst, true, false⟩ ∧
          (besideZ secondTag .after "q").run afterFirst = .ok ⟨both, true, false⟩ ∧
          remove both firstTag.name = .ok ⟨rest, false, true⟩ ∧
          (besideZ secondTag .after "q").run "x\r\nz" = .ok ⟨alone, true, false⟩ ∧
          rest ≠ alone) ∧
      Compatible (besideZ firstTag .after "p") (besideZ secondTag .before "q") "z\r" 0 0 ∧
        ∃ afterFirst both rest alone,
          (besideZ firstTag .after "p").run "z\r" = .ok ⟨afterFirst, true, false⟩ ∧
            (besideZ secondTag .before "q").run afterFirst = .ok ⟨both, true, false⟩ ∧
            remove both firstTag.name = .ok ⟨rest, false, true⟩ ∧
            (besideZ secondTag .before "q").run "z\r" = .ok ⟨alone, true, false⟩ ∧
            rest ≠ alone := by
  have endHits : ∀ placement,
      (Anchor.literal "z" placement "").hits (Text.lines "x\r\nz") = [1] := by
    intro placement
    cases placement <;> decide
  have loneHits : ∀ placement,
      (Anchor.literal "z" placement "").hits (Text.lines "z\r") = [0] := by
    intro placement
    cases placement <;> decide
  have atEnd := compatible_besideZ (by decide) (by decide) endHits .after .after
  have besideLone := compatible_besideZ (by decide) (by decide) loneHits .after .before
  have endTrace :
      (besideZ firstTag .after "p").LeavesTrace (besideZ secondTag .after "q")
        "x\r\nz" 1 1 := by
    decide
  have loneTrace :
      (besideZ firstTag .after "p").LeavesTrace (besideZ secondTag .before "q")
        "z\r" 0 0 := by
    decide
  obtain ⟨endFirst, endBoth, endFirstRun, endBothRun, endRemoved⟩ := exists_withdrawn atEnd
  obtain ⟨loneFirst, loneBoth, loneFirstRun, loneBothRun, loneRemoved⟩ :=
    exists_withdrawn besideLone
  exact
    ⟨⟨atEnd, endFirst, endBoth, _, _, endFirstRun, endBothRun, endRemoved,
        atEnd.secondFits.run_eq,
        fun same => (withdrawn_eq_alone_iff atEnd).mp same endTrace⟩,
      besideLone, loneFirst, loneBoth, _, _, loneFirstRun, loneBothRun, loneRemoved,
      besideLone.secondFits.run_eq,
      fun same => (withdrawn_eq_alone_iff besideLone).mp same loneTrace⟩

end Insertion

end Merge

end BlockSync
