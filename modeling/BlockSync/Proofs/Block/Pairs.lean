import BlockSync.Proofs.Block.Frame

namespace BlockSync.Block

/-!
# Pairs of markers

The markers of a tag pair up like brackets: a line that closes takes the closest begin marker above
it that no other line has taken.  The block of a tag is the first such pair, and taking it out
leaves one pair less, so the pairs of a text are the blocks that can be taken out of it one after
another.
-/

/-- The number of pairs of markers in lines above which some begin markers are not closed yet. -/
def pairs (tag : Tag) : Nat → List Text.Line → Nat
  | _, [] => 0
  | opened, line :: rest =>
      if Marker.isBegin tag line then
        pairs tag (opened + 1) rest
      else if Marker.isEnd tag line then
        match opened with
        | 0 => pairs tag 0 rest
        | outer + 1 => pairs tag outer rest + 1
      else
        pairs tag opened rest

variable {tag : Tag} {line : Text.Line} {rest : List Text.Line}

/-- A begin marker can be closed by a line below it. -/
theorem pairs_cons_of_begins
    (begins : Marker.isBegin tag line = true)
    (opened : Nat) :
    pairs tag opened (line :: rest) = pairs tag (opened + 1) rest := by
  cases opened <;> rw [pairs, if_pos begins]

/-- A line that closes makes a pair with a begin marker that is not closed yet. -/
theorem pairs_cons_of_closes
    (closes : Marker.closes tag line = true)
    (outer : Nat) :
    pairs tag (outer + 1) (line :: rest) = pairs tag outer rest + 1 := by
  rw [Marker.closes, Bool.and_eq_true, Bool.not_eq_true'] at closes
  simp [pairs, closes]

/-- A line that closes is passed over if there is nothing to be closed. -/
theorem pairs_zero_cons_of_closes (closes : Marker.closes tag line = true) :
    pairs tag 0 (line :: rest) = pairs tag 0 rest := by
  rw [Marker.closes, Bool.and_eq_true, Bool.not_eq_true'] at closes
  simp [pairs, closes]

/-- A foreign line is passed over. -/
theorem pairs_cons_of_foreign
    (foreign : Marker.Foreign tag line)
    (opened : Nat) :
    pairs tag opened (line :: rest) = pairs tag opened rest := by
  cases opened <;> simp [pairs, foreign.notBegin, foreign.notEnd]

/-- A line begins, closes or is foreign. -/
theorem marker_cases (tag : Tag) (line : Text.Line) :
    Marker.isBegin tag line = true ∨ Marker.closes tag line = true ∨ Marker.Foreign tag line := by
  by_cases begins : Marker.isBegin tag line = true
  · exact .inl begins
  · by_cases closes : Marker.closes tag line = true
    · exact .inr (.inl closes)
    · rw [Bool.not_eq_true] at begins closes
      exact .inr (.inr (Marker.foreign_of_not_closes begins closes))

/-- One more begin marker that is not closed yet makes at most one more pair. -/
theorem pairs_succ
    (opened : Nat)
    (lines : List Text.Line) :
    pairs tag opened lines ≤ pairs tag (opened + 1) lines ∧
      pairs tag (opened + 1) lines ≤ pairs tag opened lines + 1 := by
  induction lines generalizing opened with
  | nil =>
      simp [pairs]
  | cons line rest inductionHypothesis =>
      rcases marker_cases tag line with begins | closes | foreign
      · rw [pairs_cons_of_begins begins, pairs_cons_of_begins begins]
        exact inductionHypothesis (opened + 1)
      · rw [pairs_cons_of_closes closes]
        cases opened with
        | zero =>
            rw [pairs_zero_cons_of_closes closes]
            exact ⟨Nat.le_succ _, Nat.le_refl _⟩
        | succ outer =>
            rw [pairs_cons_of_closes closes]
            have bounds := inductionHypothesis outer
            exact ⟨Nat.succ_le_succ bounds.1, Nat.succ_le_succ bounds.2⟩
      · rw [pairs_cons_of_foreign foreign, pairs_cons_of_foreign foreign]
        exact inductionHypothesis opened

/-- Some of the lines of a text hold at most its pairs. -/
theorem pairs_sublist
    {some all : List Text.Line}
    (sublist : some.Sublist all)
    (opened : Nat) :
    pairs tag opened some ≤ pairs tag opened all := by
  induction sublist generalizing opened with
  | slnil =>
      exact Nat.le_refl _
  | @cons some all line _ inductionHypothesis =>
      rcases marker_cases tag line with begins | closes | foreign
      · rw [pairs_cons_of_begins begins]
        exact Nat.le_trans (inductionHypothesis opened) (pairs_succ opened all).1
      · cases opened with
        | zero =>
            rw [pairs_zero_cons_of_closes closes]
            exact inductionHypothesis 0
        | succ outer =>
            -- The begin marker that the line took is free again, and makes at most one pair more.
            rw [pairs_cons_of_closes closes]
            exact Nat.le_trans (pairs_succ outer some).2
              (Nat.succ_le_succ (inductionHypothesis outer))
      · rw [pairs_cons_of_foreign foreign]
        exact inductionHypothesis opened
  | @cons_cons some all line _ inductionHypothesis =>
      rcases marker_cases tag line with begins | closes | foreign
      · rw [pairs_cons_of_begins begins, pairs_cons_of_begins begins]
        exact inductionHypothesis (opened + 1)
      · cases opened with
        | zero =>
            rw [pairs_zero_cons_of_closes closes, pairs_zero_cons_of_closes closes]
            exact inductionHypothesis 0
        | succ outer =>
            rw [pairs_cons_of_closes closes, pairs_cons_of_closes closes]
            exact Nat.succ_le_succ (inductionHypothesis outer)
      · rw [pairs_cons_of_foreign foreign, pairs_cons_of_foreign foreign]
        exact inductionHypothesis opened

/-- A begin marker above lines is closed by the first of them that closes. -/
theorem pairs_succ_eq_zero_iff
    (opened : Nat)
    (lines : List Text.Line) :
    pairs tag (opened + 1) lines = 0 ↔ ∀ line ∈ lines, Marker.closes tag line = false := by
  induction lines generalizing opened with
  | nil =>
      simp [pairs]
  | cons line rest inductionHypothesis =>
      rw [List.forall_mem_cons]
      rcases marker_cases tag line with begins | closes | foreign
      · rw [pairs_cons_of_begins begins, inductionHypothesis]
        simp [Marker.closes, begins]
      · simp [pairs_cons_of_closes closes, closes]
      · rw [pairs_cons_of_foreign foreign, inductionHypothesis]
        simp [foreign.notCloses]

/-- Lines hold no pair exactly if no begin marker is closed later on. -/
theorem pairs_eq_zero_iff {lines : List Text.Line} :
    pairs tag 0 lines = 0 ↔ Unpaired tag lines := by
  induction lines with
  | nil =>
      simp [pairs, Unpaired]
  | cons line rest inductionHypothesis =>
      rw [Unpaired, List.pairwise_cons, ← Unpaired, ← inductionHypothesis]
      rcases marker_cases tag line with begins | closes | foreign
      · rw [pairs_cons_of_begins begins, pairs_succ_eq_zero_iff]
        constructor
        · intro nothingCloses
          exact
            ⟨fun second member _ => nothingCloses second member,
              inductionHypothesis.mpr (unpaired_of_not_closes nothingCloses)⟩
        · exact fun unpaired second member => unpaired.1 second member begins
      · have notBegin : Marker.isBegin tag line = false := by
          simpa using (Bool.and_eq_true_iff.mp closes).2
        simp [pairs_zero_cons_of_closes closes, notBegin]
      · simp [pairs_cons_of_foreign foreign, foreign.notBegin]

/-- A file has no block of a tag exactly if no markers of the tag pair up. -/
theorem find?_eq_none_iff_pairs {lines : List Text.Line} :
    find? tag lines = none ↔ pairs tag 0 lines = 0 := by
  rw [find?_eq_none_iff, pairs_eq_zero_iff]

/-- Lines that make some more pairs than others do so below any lines. -/
theorem pairs_append_congr
    {first second : List Text.Line}
    {count : Nat}
    (more : ∀ opened, pairs tag opened first = pairs tag opened second + count)
    (above : List Text.Line)
    (opened : Nat) :
    pairs tag opened (above ++ first) = pairs tag opened (above ++ second) + count := by
  induction above generalizing opened with
  | nil =>
      exact more opened
  | cons line rest inductionHypothesis =>
      rw [List.cons_append, List.cons_append]
      rcases marker_cases tag line with begins | closes | foreign
      · rw [pairs_cons_of_begins begins, pairs_cons_of_begins begins]
        exact inductionHypothesis (opened + 1)
      · cases opened with
        | zero =>
            rw [pairs_zero_cons_of_closes closes, pairs_zero_cons_of_closes closes]
            exact inductionHypothesis 0
        | succ outer =>
            rw [pairs_cons_of_closes closes, pairs_cons_of_closes closes,
              inductionHypothesis outer, Nat.add_right_comm]
      · rw [pairs_cons_of_foreign foreign, pairs_cons_of_foreign foreign]
        exact inductionHypothesis opened

/-- Foreign lines make no pairs. -/
theorem pairs_append_of_foreign
    {inner : List Text.Line}
    (foreign : ∀ line ∈ inner, Marker.Foreign tag line)
    (opened : Nat)
    (below : List Text.Line) :
    pairs tag opened (inner ++ below) = pairs tag opened below := by
  induction inner with
  | nil =>
      rfl
  | cons line rest inductionHypothesis =>
      rw [List.forall_mem_cons] at foreign
      rw [List.cons_append, pairs_cons_of_foreign foreign.1, inductionHypothesis foreign.2]

/-- A region is one pair. -/
theorem IsRegion.pairs_append
    {region : List Text.Line}
    (isRegion : IsRegion tag region)
    (opened : Nat)
    (below : List Text.Line) :
    pairs tag opened (region ++ below) = pairs tag opened below + 1 := by
  obtain ⟨marker, inner, stop, rfl, begins, foreign, closes⟩ := isRegion
  rw [List.cons_append, pairs_cons_of_begins begins, List.append_assoc,
    pairs_append_of_foreign foreign, List.singleton_append, pairs_cons_of_closes closes]

/-- Taking a block out leaves one pair less. -/
theorem pairs_excise
    {lines : List Text.Line}
    {block : Block}
    (found : find? tag lines = some block) :
    pairs tag 0 lines = pairs tag 0 (block.excise lines) + 1 := by
  obtain ⟨before, region, after, rfl, stands, rfl⟩ := find?_eq_some_iff.mp found
  rw [excise_ofRegion stands.isRegion]
  exact
    pairs_append_congr (fun opened => stands.isRegion.pairs_append opened after) before 0

end BlockSync.Block
