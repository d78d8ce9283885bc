import BlockSync.Anchor
import BlockSync.Proofs.Block.Frame
import BlockSync.Proofs.Regex.Search
import BlockSync.Proofs.Text.Lines

namespace BlockSync.Anchor

/-!
# Where an anchor points

An anchor that names a line of a text matches this line and no other, and points at one of the two
sides of it.
-/

variable {anchor : Anchor}

/-- An anchor without a match matches no line. -/
theorem matchesLine_eq_false_iff {line : Text.Line} :
    anchor.matchesLine line = false ↔ anchor.match? line = none := by
  rw [matchesLine, Option.isSome_eq_false_iff, Option.isNone_iff_eq_none]

/-- A literal anchor matches the lines that hold its text. -/
theorem matchesLine_literal_iff
    {marker description : String}
    {placement : Placement}
    {line : Text.Line} :
    (literal marker placement description).matchesLine line = true ↔
      marker.toList <:+: Text.withoutReturn line :=
  Regex.Pattern.literal_occursIn_iff

/-- A line without carriage returns is matched alike with one behind it. -/
theorem matchesLine_append_return
    {line : Text.Line}
    (returnless : '\r' ∉ line) :
    anchor.matchesLine (line ++ ['\r']) = anchor.matchesLine line := by
  rw [matchesLine, matchesLine, match?, match?, Text.withoutReturn_append_return,
    Text.withoutReturn_of_notMem returnless]

/-- There are no matches exactly if no line matches. -/
theorem spansFrom_eq_nil_iff
    {index offset : Nat}
    {lines : List Text.Line} :
    anchor.spansFrom index offset lines = [] ↔
      ∀ line ∈ lines, anchor.matchesLine line = false := by
  induction lines generalizing index offset with
  | nil =>
      simp [spansFrom]
  | cons line rest inductionHypothesis =>
      rw [spansFrom, List.forall_mem_cons, matchesLine_eq_false_iff]
      cases matched : anchor.match? line with
      | none =>
          simp [inductionHypothesis]
      | some found =>
          simp

/-- The only match is that of a line, and the lines around it do not match. -/
theorem exists_line_of_spansFrom
    {index offset : Nat}
    {lines : List Text.Line}
    {span : Span}
    (only : anchor.spansFrom index offset lines = [span]) :
    ∃ above line below,
      lines = above ++ line :: below ∧
        anchor.matchesLine line = true ∧
        (∀ other ∈ above ++ below, anchor.matchesLine other = false) ∧
        span.line = index + above.length := by
  induction lines generalizing index offset with
  | nil =>
      cases only
  | cons line rest inductionHypothesis =>
      rw [spansFrom] at only
      cases matched : anchor.match? line with
      | none =>
          rw [matched] at only
          obtain ⟨above, found, below, rfl, matchesFound, others, place⟩ :=
            inductionHypothesis only
          refine ⟨line :: above, found, below, rfl, matchesFound, ?_, ?_⟩
          · rw [List.cons_append, List.forall_mem_cons]
            exact ⟨matchesLine_eq_false_iff.mpr matched, others⟩
          · rw [place, List.length_cons]
            omega
      | some found =>
          rw [matched, List.cons.injEq] at only
          obtain ⟨rfl, noOther⟩ := only
          exact
            ⟨[], line, rest, rfl, by simp [matchesLine, matched],
              spansFrom_eq_nil_iff.mp noOther, rfl⟩

/-- An anchor that points somewhere points at a side of the only line that it matches. -/
theorem exists_line_of_insertionIndex
    {text : String}
    {index : Nat}
    (located : anchor.insertionIndex text = .ok index) :
    ∃ above line below,
      Text.lines text = above ++ line :: below ∧
        anchor.matchesLine line = true ∧
        (∀ other ∈ above ++ below, anchor.matchesLine other = false) ∧
        index =
          match anchor.placement with
          | .before => above.length
          | .after => above.length + 1 := by
  rw [insertionIndex, locate, spans] at located
  split at located
  · cases located
  · next span only =>
    obtain ⟨above, line, below, shape, matchesFound, others, place⟩ :=
      exists_line_of_spansFrom only
    rw [Nat.zero_add] at place
    injection located with same
    rw [place] at same
    exact ⟨above, line, below, shape, matchesFound, others, same.symm⟩
  · cases located

/-- An anchor points into its text or behind its last line. -/
theorem insertionIndex_le
    {text : String}
    {index : Nat}
    (located : anchor.insertionIndex text = .ok index) :
    index ≤ (Text.lines text).length := by
  obtain ⟨above, line, below, shape, _, _, place⟩ := exists_line_of_insertionIndex located
  rw [shape, List.length_append, List.length_cons, place]
  split <;> omega

/-- Lines are not put into a block of which the anchor matches no line. -/
theorem spares_of_unmatched
    {text : String}
    {index : Nat}
    {block : Block}
    (located : anchor.insertionIndex text = .ok index)
    (unmatched : ∀ line ∈ block.linesIn (Text.lines text), anchor.matchesLine line = false) :
    Block.Spares index block := by
  obtain ⟨above, line, below, shape, matched, _, place⟩ :=
    exists_line_of_insertionIndex located
  by_contra inside
  rw [Block.Spares, not_or, Nat.not_le, Nat.not_lt] at inside
  have afterFirst : block.first ≤ above.length := by
    rw [place] at inside
    split at inside <;> omega
  have beforeLast : above.length - block.first < block.last + 1 - block.first := by
    rw [place] at inside
    split at inside <;> omega
  have inBlock : line ∈ block.linesIn (Text.lines text) := by
    obtain ⟨count, isCount⟩ :=
      Nat.exists_eq_add_of_lt beforeLast
    rw [Block.linesIn, shape, List.drop_append_of_le_length afterFirst, isCount,
      Nat.add_assoc, List.take_append, List.length_drop, Nat.add_sub_cancel_left,
      List.take_succ_cons]
    simp
  rw [unmatched line inBlock] at matched
  cases matched

/-- The indices of the lines that an anchor matches, counted from a given index on. -/
def hitsFrom (anchor : Anchor) : Nat → List Text.Line → List Nat
  | _, [] => []
  | index, line :: rest =>
      if anchor.matchesLine line then index :: anchor.hitsFrom (index + 1) rest
      else anchor.hitsFrom (index + 1) rest

/-- The indices of the lines that an anchor matches. -/
def hits (anchor : Anchor) (lines : List Text.Line) : List Nat :=
  anchor.hitsFrom 0 lines

/-- The index of the line in front of which lines are placed beside a line. -/
def indexBeside (anchor : Anchor) (line : Nat) : Nat :=
  match anchor.placement with
  | .before => line
  | .after => line + 1

/-- The matches of an anchor are in the lines that it matches. -/
theorem map_line_spansFrom
    (index offset : Nat)
    (lines : List Text.Line) :
    (anchor.spansFrom index offset lines).map (·.line) = anchor.hitsFrom index lines := by
  induction lines generalizing index offset with
  | nil =>
      rfl
  | cons line rest inductionHypothesis =>
      rw [spansFrom, hitsFrom, matchesLine]
      cases anchor.match? line with
      | none =>
          exact inductionHypothesis _ _
      | some found =>
          exact congrArg (index :: ·) (inductionHypothesis _ _)

/-- An anchor points beside the only line that it matches, and nowhere without such a line. -/
theorem insertionIndex_eq (anchor : Anchor) (text : String) :
    anchor.insertionIndex text =
      match anchor.hits (Text.lines text) with
      | [] => .error (.notFound anchor.description text)
      | [line] => .ok (anchor.indexBeside line)
      | lines => .error (.ambiguous anchor.description text lines) := by
  have sameLines : anchor.hits (Text.lines text) = (anchor.spans text).map (·.line) :=
    (map_line_spansFrom 0 0 _).symm
  rw [insertionIndex, locate, sameLines]
  cases anchor.spans text with
  | nil =>
      rfl
  | cons first others =>
      cases others with
      | nil =>
          rfl
      | cons second others =>
          rfl

/-- Lines that are counted from a later index on are matched later. -/
theorem hitsFrom_add
    (index count : Nat)
    (lines : List Text.Line) :
    anchor.hitsFrom (index + count) lines = (anchor.hitsFrom index lines).map (· + count) := by
  induction lines generalizing index with
  | nil =>
      rfl
  | cons line rest inductionHypothesis =>
      rw [hitsFrom, hitsFrom, Nat.add_right_comm, inductionHypothesis]
      split <;> rfl

/-- The lines that are matched in two parts of a file. -/
theorem hitsFrom_append
    (index : Nat)
    (above below : List Text.Line) :
    anchor.hitsFrom index (above ++ below) =
      anchor.hitsFrom index above ++ anchor.hitsFrom (index + above.length) below := by
  induction above generalizing index with
  | nil =>
      rfl
  | cons line rest inductionHypothesis =>
      rw [List.cons_append, hitsFrom, hitsFrom, inductionHypothesis, List.length_cons,
        Nat.add_assoc, Nat.add_comm 1]
      split <;> rfl

/-- Lines that are not matched give no hits. -/
theorem hitsFrom_eq_nil
    (index : Nat)
    {lines : List Text.Line}
    (unmatched : ∀ line ∈ lines, anchor.matchesLine line = false) :
    anchor.hitsFrom index lines = [] := by
  induction lines generalizing index with
  | nil =>
      rfl
  | cons line rest inductionHypothesis =>
      rw [List.forall_mem_cons] at unmatched
      rw [hitsFrom, unmatched.1]
      exact inductionHypothesis (index + 1) unmatched.2

/-- A line that is matched is one of those that are looked at. -/
theorem bounds_of_mem_hitsFrom
    {index hit : Nat}
    {lines : List Text.Line}
    (member : hit ∈ anchor.hitsFrom index lines) :
    index ≤ hit ∧ hit < index + lines.length := by
  induction lines generalizing index with
  | nil =>
      cases member
  | cons line rest inductionHypothesis =>
      rw [hitsFrom] at member
      rw [List.length_cons]
      have later : hit ∈ anchor.hitsFrom (index + 1) rest →
          index ≤ hit ∧ hit < index + (rest.length + 1) := by
        intro isLater
        have bounds := inductionHypothesis isLater
        omega
      split at member
      · rcases List.mem_cons.mp member with rfl | isLater
        · omega
        · exact later isLater
      · exact later member

/-- Lines that are not matched move the matched ones when they are put in. -/
theorem hits_insert
    {lines added : List Text.Line}
    {index : Nat}
    (within : index ≤ lines.length)
    (unmatched : ∀ line ∈ added, anchor.matchesLine line = false) :
    anchor.hits (lines.take index ++ (added ++ lines.drop index)) =
      (anchor.hits lines).map (Block.openedAt index added.length) := by
  have count : (lines.take index).length = index := by
    rw [List.length_take, Nat.min_eq_left within]
  have stay : ∀ hit ∈ anchor.hitsFrom 0 (lines.take index),
      id hit = Block.openedAt index added.length hit := by
    intro hit member
    have above : hit < index := by
      have bounds := bounds_of_mem_hitsFrom member
      omega
    exact (Block.openedAt_of_lt above _).symm
  have goDown : ∀ hit ∈ anchor.hitsFrom (0 + index) (lines.drop index),
      hit + added.length = Block.openedAt index added.length hit := by
    intro hit member
    have below : index ≤ hit := by
      have bounds := bounds_of_mem_hitsFrom member
      omega
    exact (Block.openedAt_of_le below _).symm
  conv_rhs => rw [hits, ← List.take_append_drop index lines]
  rw [hits, hitsFrom_append, hitsFrom_append, hitsFrom_eq_nil _ unmatched, List.nil_append,
    hitsFrom_add, hitsFrom_append, List.map_append, count, ← List.map_congr_left stay,
    ← List.map_congr_left goDown, List.map_id]

end BlockSync.Anchor
