import BlockSync.Proofs.Text.Lines
import BlockSync.Text.LineBreak

namespace BlockSync.Text

/-!
# Line breaks of every kind and line feeds

A text that is cut after every line break has its breaks at the ends of its lines.  Where such lines
are given a line feed each and are cut again, each of them is one line, unless it ends in a break
that a line feed does not complete: then the line feed is a line of its own.
-/

variable {line text : List Char} {c mark : Char}

/-- A line without the line feed that ends it. -/
def unfed (line : List Char) : List Char :=
  if line.getLast? = some '\n' then line.dropLast else line

/-- A line that is given a line feed is the line without it, and the line feed. -/
theorem endLine_eq (line : List Char) : endLine line = unfed line ++ ['\n'] := by
  rw [endLine, unfed]
  split
  · next isFeed =>
    exact (List.dropLast_append_getLast? '\n' isFeed).symm
  · rfl

/-- Without the line feed that was put at its end a line is as before. -/
theorem unfed_concat_feed (line : List Char) : unfed (line ++ ['\n']) = line := by
  simp [unfed]

/-- That a line has no breaks can be computed. -/
theorem unbroken_of_any (none : line.any isLineBreak = false) :
    ∀ c ∈ line, isLineBreak c = false := by
  simpa using none

/-- Whether a line has no line break but at its end, and no line feed there. -/
structure BreaksLast (line : List Char) : Prop where
  fedless : '\n' ∉ line
  unbroken : ∀ c ∈ line.dropLast, isLineBreak c = false

/-- Whether a line ends in a break that is neither a line feed nor completed by one. -/
def endsInOtherBreak (line : List Char) : Bool :=
  line.getLast?.any fun c => isLineBreak c && c != '\r' && c != '\n'

/-- A line without breaks has none but at its end. -/
theorem breaksLast_of_unbroken
    (unbroken : ∀ c ∈ line, isLineBreak c = false) :
    BreaksLast line where
  fedless := by
    intro member
    cases unbroken '\n' member
  unbroken c member :=
    unbroken c (List.mem_of_mem_dropLast member)

/-- A line without breaks ends in none. -/
theorem endsInOtherBreak_of_unbroken
    (unbroken : ∀ c ∈ line, isLineBreak c = false) :
    endsInOtherBreak line = false := by
  rw [endsInOtherBreak]
  cases last : line.getLast? with
  | none =>
      rfl
  | some c =>
      have isUnbroken := unbroken c (List.mem_of_getLast? last)
      simp [isUnbroken]

/-- A mark in front of a line brings no breaks. -/
theorem BreaksLast.cons
    (breaksLast : BreaksLast line)
    (unbroken : isLineBreak mark = false) :
    BreaksLast (mark :: line) := by
  obtain ⟨fedless, unbrokenRest⟩ := breaksLast
  refine ⟨?_, ?_⟩
  · rw [List.mem_cons, not_or]
    refine ⟨?_, fedless⟩
    rintro rfl
    cases unbroken
  · cases line with
    | nil =>
        exact List.forall_mem_nil _
    | cons first rest =>
        rw [List.dropLast_cons_cons]
        exact List.forall_mem_cons.mpr ⟨unbroken, unbrokenRest⟩

/-- A mark in front of a line stays there without the line feed. -/
theorem unfed_cons
    (notFeed : mark ≠ '\n')
    (line : List Char) :
    unfed (mark :: line) = mark :: unfed line := by
  cases line with
  | nil =>
      simp [unfed, notFeed]
  | cons first rest =>
      rw [unfed, unfed, List.getLast?_cons_cons, List.dropLast_cons_cons]
      split <;> rfl

/-- A text is cut from its end. -/
private theorem breakLines_cons (c : Char) (rest : List Char) :
    breakLines (c :: rest) = breakStep c (breakLines rest) := by
  rfl

/-- Every line that is cut off has its break at its end. -/
theorem breaksLast_unfed_of_mem
    (member : line ∈ breakLines text) :
    BreaksLast (unfed line) := by
  induction text generalizing line with
  | nil =>
      cases member
  | cons c rest inductionHypothesis =>
      rw [breakLines_cons] at member
      have alone : BreaksLast (unfed [c]) := by
        by_cases isFeed : c = '\n'
        · subst isFeed
          exact breaksLast_of_unbroken (List.forall_mem_nil _)
        · have kept : unfed [c] = [c] := unfed_cons isFeed []
          rw [kept]
          exact ⟨by simpa using Ne.symm isFeed, List.forall_mem_nil _⟩
      cases pieces : breakLines rest with
      | nil =>
          rw [pieces] at member
          obtain rfl := List.mem_singleton.mp member
          exact alone
      | cons first others =>
          rw [pieces] at member inductionHypothesis
          have other : line ∈ others → BreaksLast (unfed line) :=
            fun isOther => inductionHypothesis (List.mem_cons_of_mem first isOther)
          -- A character joins the line behind it, unless it is a break; then it is a line alone.
          rw [breakStep] at member
          split at member
          · rcases List.mem_cons.mp member with rfl | isOther
            · exact ⟨by decide, List.forall_mem_nil _⟩
            · exact other isOther
          · split at member
            · rcases List.mem_cons.mp member with rfl | member
              · exact alone
              · exact inductionHypothesis member
            · next noBreak =>
              rcases List.mem_cons.mp member with rfl | isOther
              · have unbroken : isLineBreak c = false := by
                  simpa using noBreak
                have notFeed : c ≠ '\n' := by
                  rintro rfl
                  cases unbroken
                rw [unfed_cons notFeed]
                exact (inductionHypothesis List.mem_cons_self).cons unbroken
              · exact other isOther

/-- A line feed in front of a text is a line of its own. -/
theorem breakLines_feed_cons (rest : List Char) :
    breakLines ('\n' :: rest) = ['\n'] :: breakLines rest := by
  rw [breakLines_cons]
  cases breakLines rest with
  | nil =>
      rfl
  | cons first others =>
      rw [breakStep, if_neg (by simp), if_pos (by decide)]

/-- A line feed ends a line, so what stands behind it is cut by itself. -/
theorem breakLines_append_feed (front rest : List Char) :
    breakLines (front ++ '\n' :: rest) = breakLines (front ++ ['\n']) ++ breakLines rest := by
  induction front with
  | nil =>
      exact breakLines_feed_cons rest
  | cons c front inductionHypothesis =>
      rw [List.cons_append, List.cons_append, breakLines_cons, breakLines_cons,
        inductionHypothesis]
      have nonempty : breakLines (front ++ ['\n']) ≠ [] := by
        intro empty
        have whole := flatten_breakLines (front ++ ['\n'])
        rw [empty] at whole
        exact List.append_ne_nil_of_right_ne_nil front (List.cons_ne_nil _ _) whole.symm
      obtain ⟨first, others, shape⟩ := List.exists_cons_of_ne_nil nonempty
      rw [shape, List.cons_append, breakStep, breakStep]
      split
      · rfl
      · split <;> rfl

/-- A line that has its break at its end is cut behind that and behind its line feed. -/
theorem breakLines_concat_feed
    (breaksLast : BreaksLast line) :
    breakLines (line ++ ['\n']) =
      if endsInOtherBreak line then [line, ['\n']] else [line ++ ['\n']] := by
  induction line with
  | nil =>
      rfl
  | cons c rest inductionHypothesis =>
      obtain ⟨fedless, unbroken⟩ := breaksLast
      rw [List.mem_cons, not_or] at fedless
      rw [List.cons_append, breakLines_cons]
      cases rest with
      | nil =>
          have feedAlone : breakLines ([] ++ ['\n']) = [['\n']] := rfl
          rw [feedAlone, breakStep]
          by_cases isReturn : c = '\r'
          · subst isReturn
            rfl
          · rw [if_neg fun both => isReturn both.1]
            simp [endsInOtherBreak, isReturn, Ne.symm fedless.1]
      | cons second others =>
          have noBreak : isLineBreak c = false :=
            unbroken c (by simp)
          have notReturn : c ≠ '\r' := by
            rintro rfl
            cases noBreak
          have laterUnbroken : ∀ c ∈ (second :: others).dropLast, isLineBreak c = false :=
            fun c member => unbroken c (by simp [member])
          have sameEnd :
              endsInOtherBreak (c :: second :: others) = endsInOtherBreak (second :: others) := by
            rw [endsInOtherBreak, endsInOtherBreak, List.getLast?_cons_cons]
          rw [sameEnd, inductionHypothesis ⟨fedless.2, laterUnbroken⟩]
          split
          · simp [breakStep, notReturn, noBreak]
          · simp [breakStep, notReturn, noBreak]

/-- Lines that have their breaks at their ends are cut one by one after they are given feeds. -/
theorem breakLines_fed
    {content : List Line}
    (breaksLast : ∀ line ∈ content, BreaksLast line) :
    breakLines (fed content) =
      content.flatMap fun line =>
        if endsInOtherBreak line then [line, ['\n']] else [line ++ ['\n']] := by
  induction content with
  | nil =>
      rfl
  | cons first others inductionHypothesis =>
      obtain ⟨firstBreaksLast, othersBreakLast⟩ := List.forall_mem_cons.mp breaksLast
      have unfolded : fed (first :: others) = first ++ '\n' :: fed others := by
        simp [fed]
      rw [unfolded, breakLines_append_feed, breakLines_concat_feed firstBreaksLast,
        inductionHypothesis othersBreakLast, List.flatMap_cons]

end BlockSync.Text
