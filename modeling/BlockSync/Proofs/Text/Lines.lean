import BlockSync.Merge
import Mathlib.Data.List.Infix

namespace BlockSync.Text

/-!
# Cutting and joining

Pieces without separator survive being joined and cut again, so a text and its lines carry the
same information.  A text uses carriage returns exactly if one stands in front of a line feed.
-/

/-- The first piece of a text whose first character is no separator starts with that character. -/
theorem splitOn_cons_of_ne
    {separator c : Char}
    (different : c ≠ separator)
    {text first : List Char}
    {others : List (List Char)}
    (cut : splitOn separator text = first :: others) :
    splitOn separator (c :: text) = (c :: first) :: others := by
  simp only [splitOn, List.foldr_cons, different, ↓reduceIte] at cut ⊢
  rw [cut]

/-- A separator ends an empty piece. -/
theorem splitOn_cons_self
    (separator : Char)
    (text : List Char) :
    splitOn separator (separator :: text) = [] :: splitOn separator text := by
  simp [splitOn]

/-- A text without separators is one piece. -/
theorem splitOn_of_notMem
    {separator : Char}
    {piece : List Char}
    (absent : separator ∉ piece) :
    splitOn separator piece = [piece] := by
  induction piece with
  | nil =>
      rfl
  | cons c rest inductionHypothesis =>
      rw [List.mem_cons, not_or] at absent
      exact splitOn_cons_of_ne (Ne.symm absent.1) (inductionHypothesis absent.2)

/-- The first separator ends the first piece. -/
theorem splitOn_append_cons
    {separator : Char}
    {piece : List Char}
    (absent : separator ∉ piece)
    (rest : List Char) :
    splitOn separator (piece ++ separator :: rest) =
      piece :: splitOn separator rest := by
  induction piece with
  | nil =>
      exact splitOn_cons_self separator rest
  | cons c others inductionHypothesis =>
      rw [List.mem_cons, not_or] at absent
      exact splitOn_cons_of_ne (Ne.symm absent.1) (inductionHypothesis absent.2)

/-- Joining more pieces puts a separator behind the first one. -/
theorem joinWith_cons_cons
    (separator : Char)
    (first second : List Char)
    (rest : List (List Char)) :
    joinWith separator (first :: second :: rest) =
      first ++ separator :: joinWith separator (second :: rest) := by
  simp [joinWith]

/-- Cutting at the separators undoes joining. -/
theorem splitOn_joinWith
    {separator : Char}
    {pieces : List (List Char)}
    (nonempty : pieces ≠ [])
    (absent : ∀ piece ∈ pieces, separator ∉ piece) :
    splitOn separator (joinWith separator pieces) = pieces := by
  induction pieces with
  | nil =>
      exact (nonempty rfl).elim
  | cons first rest inductionHypothesis =>
      cases rest with
      | nil =>
          simpa [joinWith] using splitOn_of_notMem (absent first (by simp))
      | cons second others =>
          rw [joinWith_cons_cons, splitOn_append_cons (absent first (by simp)),
            inductionHypothesis (by simp)
              fun piece member => absent piece (List.mem_cons_of_mem first member)]

/-- No piece holds a separator. -/
theorem notMem_of_mem_splitOn
    {separator : Char}
    {text piece : List Char}
    (member : piece ∈ splitOn separator text) :
    separator ∉ piece := by
  induction text generalizing piece with
  | nil =>
      have empty : piece = [] := by
        simpa [splitOn_nil] using member
      simp [empty]
  | cons c rest inductionHypothesis =>
      by_cases same : c = separator
      · subst c
        rw [splitOn_cons_self] at member
        rcases List.mem_cons.mp member with isFirst | isLater
        · simp [isFirst]
        · exact inductionHypothesis isLater
      · obtain ⟨first, others, cut⟩ :=
          List.exists_cons_of_ne_nil (splitOn_ne_nil separator rest)
        rw [splitOn_cons_of_ne same cut] at member
        rcases List.mem_cons.mp member with isFirst | isLater
        · have inFirst : separator ∉ first :=
            inductionHypothesis (by simp [cut])
          rw [isFirst, List.mem_cons, not_or]
          exact ⟨Ne.symm same, inFirst⟩
        · exact inductionHypothesis (by simp [cut, isLater])

/-- Lines with the line feed that ends each of them. -/
def fed (lines : List Line) : List Char :=
  lines.flatMap (· ++ ['\n'])

/-- Lines that are given line feeds are the lines of the text, up to the empty one at its end. -/
theorem splitOn_fed
    {content : List Line}
    (fedless : ∀ line ∈ content, '\n' ∉ line) :
    splitOn '\n' (fed content) = content ++ [[]] := by
  induction content with
  | nil =>
      rfl
  | cons first others inductionHypothesis =>
      obtain ⟨firstFedless, othersFedless⟩ := List.forall_mem_cons.mp fedless
      have unfolded : fed (first :: others) = first ++ '\n' :: fed others := by
        simp [fed]
      rw [unfolded, splitOn_append_cons firstFedless, inductionHypothesis othersFedless,
        List.cons_append]

/-- Every piece is a part of the text. -/
theorem infix_of_mem_splitOn
    {separator : Char}
    {text piece : List Char}
    (member : piece ∈ splitOn separator text) :
    piece <:+: text := by
  induction text generalizing piece with
  | nil =>
      have empty : piece = [] := by
        simpa [splitOn_nil] using member
      rw [empty]
  | cons c rest inductionHypothesis =>
      by_cases same : c = separator
      · subst c
        rw [splitOn_cons_self] at member
        rcases List.mem_cons.mp member with isFirst | isLater
        · rw [isFirst]
          exact List.nil_infix
        · exact (inductionHypothesis isLater).trans (List.suffix_cons separator rest).isInfix
      · obtain ⟨first, others, cut⟩ :=
          List.exists_cons_of_ne_nil (splitOn_ne_nil separator rest)
        rw [splitOn_cons_of_ne same cut] at member
        rcases List.mem_cons.mp member with isFirst | isLater
        · have joined := joinWith_splitOn separator rest
          rw [cut, joinWith] at joined
          rw [isFirst, ← joined]
          exact ⟨[], others.flatMap (separator :: ·), rfl⟩
        · exact (inductionHypothesis (by simp [cut, isLater])).trans
            (List.suffix_cons c rest).isInfix

/-- What is said of lines and of others that are put in is said of all of them. -/
theorem forall_mem_insert
    {holds : Line → Prop}
    {lines added : List Line}
    (onLines : ∀ line ∈ lines, holds line)
    (onAdded : ∀ line ∈ added, holds line)
    (index : Nat) :
    ∀ line ∈ lines.take index ++ (added ++ lines.drop index), holds line := by
  intro line member
  rw [List.mem_append, List.mem_append] at member
  rcases member with isAbove | isAdded | isBelow
  · exact onLines line (List.mem_of_mem_take isAbove)
  · exact onAdded line isAdded
  · exact onLines line (List.mem_of_mem_drop isBelow)

/-- There is always a first line. -/
theorem lines_ne_nil (text : String) : lines text ≠ [] :=
  splitOn_ne_nil '\n' text.toList

/-- No line holds a line feed. -/
theorem notMem_of_mem_lines
    {text : String}
    {line : Line}
    (member : line ∈ lines text) :
    '\n' ∉ line :=
  notMem_of_mem_splitOn member

/-- Every line is a part of its text. -/
theorem infix_of_mem_lines
    {text : String}
    {line : Line}
    (member : line ∈ lines text) :
    line <:+: text.toList :=
  infix_of_mem_splitOn member

/-- The text of its own lines. -/
@[simp] theorem ofLines_lines (text : String) : ofLines (lines text) = text := by
  simp [ofLines, lines, joinWith_splitOn]

/-- The lines of a text that was put together from lines. -/
theorem lines_ofLines
    {content : List Line}
    (nonempty : content ≠ [])
    (fedless : ∀ line ∈ content, '\n' ∉ line) :
    lines (ofLines content) = content := by
  simp [ofLines, lines, splitOn_joinWith nonempty fedless]

/-- A line without carriage returns has none to be left out. -/
theorem withoutReturn_of_notMem
    {line : Line}
    (returnless : '\r' ∉ line) :
    withoutReturn line = line :=
  if_neg fun isReturn => returnless (List.mem_of_getLast? isReturn)

/-- The carriage return at the end of a line is left out. -/
theorem withoutReturn_append_return (line : Line) : withoutReturn (line ++ ['\r']) = line := by
  simp [withoutReturn]

/-- Leaving out a carriage return adds nothing. -/
theorem withoutReturn_subset (line : Line) : withoutReturn line ⊆ line := by
  rw [withoutReturn]
  split
  · exact List.dropLast_subset line
  · exact List.Subset.refl line

/-- Texts with the same lines are equal. -/
theorem eq_of_lines_eq
    {first second : String}
    (same : lines first = lines second) :
    first = second := by
  rw [← ofLines_lines first, same, ofLines_lines]

/-- A carriage return and a line feed behind a piece without feeds stand at its end or later. -/
private theorem return_feed_infix_iff
    {piece rest : List Char}
    (fedless : '\n' ∉ piece) :
    ['\r', '\n'] <:+: piece ++ '\n' :: rest ↔
      piece.getLast? = some '\r' ∨ ['\r', '\n'] <:+: rest := by
  constructor
  · rintro ⟨before, after, shape⟩
    have cut : (before ++ ['\r']) ++ '\n' :: after = piece ++ '\n' :: rest := by
      simpa using shape
    rcases List.append_eq_append_iff.mp cut with
        ⟨gap, pieceShape, feedShape⟩ | ⟨gap, beforeShape, feedShape⟩
    · cases gap with
      | nil =>
          left
          simp [pieceShape]
      | cons c others =>
          injection feedShape with sameFeed
          exact (fedless (by simp [pieceShape, ← sameFeed])).elim
    · cases gap using List.reverseRecOn with
      | nil =>
          left
          rw [List.append_nil] at beforeShape
          simp [← beforeShape]
      | append_singleton others last =>
          right
          rw [← List.append_assoc] at beforeShape
          obtain ⟨_, sameReturn⟩ := List.append_inj' beforeShape rfl
          obtain rfl : '\r' = last := by simpa using sameReturn
          cases others with
          | nil =>
              simp at feedShape
          | cons c middle =>
              rw [List.cons_append, List.cons_append, List.cons.injEq] at feedShape
              exact ⟨middle, after, by simpa using feedShape.2.symm⟩
  · rintro (atEnd | later)
    · obtain ⟨before, rfl⟩ := List.getLast?_eq_some_iff.mp atEnd
      exact ⟨before, rest, by simp⟩
    · exact later.trans ⟨piece ++ ['\n'], [], by simp⟩

/-- Pieces use carriage returns exactly if one stands in front of a line feed that joins them. -/
private theorem usesReturns_iff_joinWith
    {pieces : List (List Char)}
    (nonempty : pieces ≠ [])
    (fedless : ∀ piece ∈ pieces, '\n' ∉ piece) :
    Merge.usesReturns pieces = true ↔ ['\r', '\n'] <:+: joinWith '\n' pieces := by
  induction pieces with
  | nil =>
      exact (nonempty rfl).elim
  | cons first rest inductionHypothesis =>
      cases rest with
      | nil =>
          have noFeed := fedless first (by simp)
          simp only [Merge.usesReturns, List.dropLast_singleton, List.any_nil,
            Bool.false_eq_true, false_iff, joinWith, List.flatMap_nil, List.append_nil]
          exact fun occurs => noFeed (occurs.subset (by simp))
      | cons second others =>
          have later :=
            inductionHypothesis (by simp)
              fun piece member => fedless piece (List.mem_cons_of_mem first member)
          rw [joinWith_cons_cons, return_feed_infix_iff (fedless first (by simp)), ← later]
          simp [Merge.usesReturns]

/-- A text uses carriage returns exactly if one stands in front of a line feed. -/
theorem usesReturns_iff {text : String} :
    Merge.usesReturns (lines text) = true ↔ ['\r', '\n'] <:+: text.toList := by
  rw [usesReturns_iff_joinWith (lines_ne_nil text) fun _ => notMem_of_mem_lines,
    lines, joinWith_splitOn]

/-- What stands behind the last separator ends the text. -/
theorem suffix_joinWith_concat
    (separator : Char)
    (pieces : List (List Char))
    (last : List Char) :
    last <:+ joinWith separator (pieces ++ [last]) := by
  cases pieces with
  | nil =>
      exact ⟨[], by simp [joinWith]⟩
  | cons first rest =>
      exact ⟨first ++ rest.flatMap (separator :: ·) ++ [separator], by simp [joinWith]⟩

/-- The last line of a text ends it. -/
theorem suffix_of_mem_getLast?_lines
    {text : String}
    {last : Line}
    (isLast : last ∈ (lines text).getLast?) :
    last <:+ text.toList := by
  obtain ⟨others, shape⟩ := List.getLast?_eq_some_iff.mp isLast
  have joined := joinWith_splitOn '\n' text.toList
  rw [show splitOn '\n' text.toList = others ++ [last] from shape] at joined
  rw [← joined]
  exact suffix_joinWith_concat '\n' others last

/-- Lines of which none ends in a carriage return use none. -/
theorem usesReturns_eq_false
    {lines : List Line}
    (returnless : ∀ line ∈ lines, line.getLast? ≠ some '\r') :
    Merge.usesReturns lines = false := by
  rw [Merge.usesReturns, List.any_eq_false]
  intro line member
  simpa using returnless line (List.mem_of_mem_dropLast member)

/-- Lines that use no carriage returns can have one at the end of the last line only. -/
theorem returnless_of_usesReturns
    {lines : List Line}
    (unused : Merge.usesReturns lines = false)
    (finalReturnless : ∀ last ∈ lines.getLast?, last.getLast? ≠ some '\r') :
    ∀ line ∈ lines, line.getLast? ≠ some '\r' := by
  cases lines using List.reverseRecOn with
  | nil =>
      simp
  | append_singleton others last =>
      rw [Merge.usesReturns, List.dropLast_concat, List.any_eq_false] at unused
      intro line member
      rcases List.mem_append.mp member with isOther | isLast
      · simpa using unused line isOther
      · rw [List.mem_singleton.mp isLast]
        exact finalReturnless last (by simp)

/-- The first line of several has its carriage return in front of a line feed. -/
private theorem usesReturns_cons_iff
    {line : Line}
    {rest : List Line} :
    Merge.usesReturns (line :: rest) = true ↔
      rest ≠ [] ∧ line.getLast? = some '\r' ∨ Merge.usesReturns rest = true := by
  cases rest with
  | nil =>
      simp [Merge.usesReturns]
  | cons second others =>
      simp [Merge.usesReturns]

/-- A carriage return in front of a line feed stays there when lines are put around its line. -/
theorem usesReturns_of_sublist
    {some all : List Line}
    (used : Merge.usesReturns some = true)
    (sublist : some.Sublist all) :
    Merge.usesReturns all = true := by
  induction sublist with
  | slnil =>
      exact used
  | cons line _ inductionHypothesis =>
      exact usesReturns_cons_iff.mpr (Or.inr (inductionHypothesis used))
  | @cons_cons others more line sublist inductionHypothesis =>
      rw [usesReturns_cons_iff] at used ⊢
      rcases used with ⟨followed, endsInReturn⟩ | usedLater
      · left
        refine ⟨?_, endsInReturn⟩
        rintro rfl
        exact followed (List.sublist_nil.mp sublist)
      · exact Or.inr (inductionHypothesis usedLater)

end BlockSync.Text
