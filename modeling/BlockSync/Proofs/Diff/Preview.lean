import BlockSync.Diff.Preview
import BlockSync.Proofs.Diff.Unified
import BlockSync.Proofs.Style.Ansi
import Mathlib.Algebra.BigOperators.Group.List.Basic

namespace BlockSync.Diff

/-!
# What a preview keeps of a diff

A diff should be shown line by line, its first two lines bold and every other line in the colour of
its mark.  Two kinds of lines are shown in another way.  A removed line that starts with two minus
signs, or an added one that starts with two plus signs, is taken for the line of a file.  A line
that ends in a break which the line feed behind it does not complete is shown as two lines.
-/

/-- A line as it is shown in some styles. -/
def shownAs (colored : Bool) (styles : List Style.Effect) (line : Text.Line) : Text.Line :=
  match styles with
  | [] => showReturns line
  | styles => Style.paint colored styles (showReturns line)

/-- The styles for the mark of a line. -/
def markStyles : Text.Line → List Style.Effect
  | '-' :: _ => [Style.red]
  | '+' :: _ => [Style.green]
  | '@' :: _ => [Style.cyan]
  | _ => []

/-- Whether a line starts as the lines for the files do. -/
def startsAsFileHead (line : Text.Line) : Bool :=
  "+++".toList.isPrefixOf line || "---".toList.isPrefixOf line

/-- The lines of a diff in their colours: the first two are bold, the others go by their marks. -/
def shownByMarks (colored : Bool) (lines : List Text.Line) : List Text.Line :=
  (lines.take 2).map (shownAs colored [Style.bold]) ++
    (lines.drop 2).map fun line => shownAs colored (markStyles line) line

/-- What is shown for a line. -/
def shownFor (colored : Bool) (line : Text.Line) : List Text.Line :=
  shownAs colored (if startsAsFileHead line then [Style.bold] else markStyles line) line ::
    if Text.endsInOtherBreak line then [[]] else []

section Lines

variable {colored : Bool} {line : Text.Line}

/-- A line is shown in bold if it starts as the lines for the files do, else by its mark. -/
theorem previewLine_eq (colored : Bool) (line : Text.Line) :
    previewLine colored line =
      shownAs colored (if startsAsFileHead line then [Style.bold] else markStyles line) line := by
  rfl

/-- A line without line feed is shown without one. -/
theorem feed_notMem_previewLine (fedless : '\n' ∉ line) : '\n' ∉ previewLine colored line := by
  have shownFedless : '\n' ∉ showReturns line := by
    intro member
    obtain ⟨c, inLine, isShown⟩ := List.mem_flatMap.mp member
    split at isShown
    · revert isShown
      decide
    · rw [List.mem_singleton.mp isShown] at fedless
      exact fedless inLine
  rw [previewLine]
  split
  · exact shownFedless
  · exact Style.feed_notMem_paint colored _ shownFedless

/-- A line without line feeds keeps all characters when the feeds at its end are left out. -/
theorem trimEndWhile_of_notMem (fedless : '\n' ∉ line) :
    Text.trimEndWhile (· = '\n') line = line := by
  have kept : line.reverse.dropWhile (· = '\n') = line.reverse := by
    cases shape : line.reverse with
    | nil =>
        rfl
    | cons last others =>
        have inLine : last ∈ line := by
          rw [← List.mem_reverse, shape]
          exact List.mem_cons_self
        refine List.dropWhile_cons_of_neg ?_
        rw [decide_eq_true_eq]
        rintro rfl
        exact fedless inLine
  rw [Text.trimEndWhile, kept, List.reverse_reverse]

/-- The line feed behind a line without line feeds is left out. -/
theorem trimEndWhile_concat_feed (fedless : '\n' ∉ line) :
    Text.trimEndWhile (· = '\n') (line ++ ['\n']) = line := by
  have without := trimEndWhile_of_notMem fedless
  rw [Text.trimEndWhile] at without ⊢
  rw [List.reverse_concat, List.dropWhile_cons_of_pos (by decide), without]

end Lines

/-- Without numbers the lines are shown one below the other. -/
theorem preview_unnumbered (colored : Bool) (patch : List (List Char)) :
    preview colored false patch =
      String.ofList
        (Text.fed ((patch.map (Text.trimEndWhile (· = '\n'))).map (previewLine colored))) := by
  rw [preview, Text.fed, List.flatMap_map]
  simp only [Bool.false_eq_true, ↓reduceIte, List.nil_append]
  generalize patch.map _ = lines
  generalize 0 = start
  congr 1
  induction lines generalizing start with
  | nil =>
      rfl
  | cons first others inductionHypothesis =>
      rw [List.zipIdx_cons, List.flatMap_cons, List.flatMap_cons, inductionHypothesis]

/-- Lines with breaks at their ends are shown one by one, but for the feeds that end no line. -/
theorem lines_previewText_fed
    {content : List Text.Line}
    (breaksLast : ∀ line ∈ content, Text.BreaksLast line)
    (colored : Bool) :
    Text.lines (previewText colored false (String.ofList (Text.fed content))) =
      content.flatMap (shownFor colored) ++ [[]] := by
  have trimmed :
      (Text.breakLines (Text.fed content)).map (Text.trimEndWhile (· = '\n')) =
        content.flatMap fun line => line :: if Text.endsInOtherBreak line then [[]] else [] := by
    rw [Text.breakLines_fed breaksLast, List.map_flatMap]
    refine List.flatMap_congr fun line member => ?_
    have fedless := (breaksLast line member).fedless
    split
    · have feedAlone : Text.trimEndWhile (· = '\n') ['\n'] = [] := rfl
      rw [List.map_cons, List.map_singleton, trimEndWhile_of_notMem fedless, feedAlone]
    · rw [List.map_singleton, trimEndWhile_concat_feed fedless]
  have shown :
      ((Text.breakLines (Text.fed content)).map (Text.trimEndWhile (· = '\n'))).map
          (previewLine colored) =
        content.flatMap (shownFor colored) := by
    rw [trimmed, List.map_flatMap]
    refine List.flatMap_congr fun line _ => ?_
    rw [List.map_cons, previewLine_eq, shownFor]
    cases Text.endsInOtherBreak line <;> rfl
  have fedless : ∀ line ∈ content.flatMap (shownFor colored), '\n' ∉ line := by
    rw [← shown, trimmed]
    intro line isShown
    obtain ⟨piece, isPiece, rfl⟩ := List.mem_map.mp isShown
    refine feed_notMem_previewLine ?_
    obtain ⟨line, member, isPiece⟩ := List.mem_flatMap.mp isPiece
    rcases List.mem_cons.mp isPiece with rfl | isFeed
    · exact (breaksLast _ member).fedless
    · split at isFeed
      · rw [List.mem_singleton.mp isFeed]
        exact List.not_mem_nil
      · cases isFeed
  rw [previewText, String.toList_ofList, preview_unnumbered, Text.lines, String.toList_ofList,
    shown, Text.splitOn_fed fedless]

section Marks

variable {colored : Bool} {line : Text.Line}

/-- A line that is taken for the line of a file is not shown in the colour of its mark. -/
theorem shownAs_bold_ne (startsAlike : startsAsFileHead line = true) :
    shownAs true [Style.bold] line ≠ shownAs true (markStyles line) line := by
  rcases Bool.or_eq_true_iff.mp startsAlike with isAdded | isRemoved
  · obtain ⟨rest, rfl⟩ := List.isPrefixOf_iff_prefix.mp isAdded
    exact Style.paint_ne_paint (List.cons_ne_nil _ _) (by decide) (by decide)
  · obtain ⟨rest, rfl⟩ := List.isPrefixOf_iff_prefix.mp isRemoved
    exact Style.paint_ne_paint (List.cons_ne_nil _ _) (by decide) (by decide)

/-- Without colours all styles look the same. -/
theorem shownAs_uncolored (styles : List Style.Effect) (line : Text.Line) :
    shownAs false styles line = showReturns line := by
  cases styles with
  | nil =>
      rfl
  | cons first others =>
      rfl

/-- A line is shown once and in the colour of its mark, but for the two kinds that are not. -/
theorem shownFor_eq_iff :
    shownFor colored line = [shownAs colored (markStyles line) line] ↔
      (colored = true → startsAsFileHead line = false) ∧ Text.endsInOtherBreak line = false := by
  rw [shownFor, List.cons.injEq]
  refine and_congr ?_ ?_
  · cases colored with
    | false =>
        simp [shownAs_uncolored]
    | true =>
        cases startsAlike : startsAsFileHead line with
        | false =>
            simp
        | true =>
            simpa using shownAs_bold_ne startsAlike
  · cases Text.endsInOtherBreak line <;> simp

/-- Something is shown for every line. -/
theorem shownFor_ne_nil (colored : Bool) (line : Text.Line) : shownFor colored line ≠ [] :=
  List.cons_ne_nil _ _

/-- The line of a file is shown once and in bold. -/
theorem shownFor_fileHead
    (startsAlike : startsAsFileHead line = true)
    (unbroken : ∀ c ∈ line, Text.isLineBreak c = false) :
    shownFor colored line = [shownAs colored [Style.bold] line] := by
  rw [shownFor, startsAlike, Text.endsInOtherBreak_of_unbroken unbroken]
  rfl

end Marks

/-- Nonempty pieces are one item each exactly if there are as many items as pieces. -/
private theorem flatMap_eq_map_iff
    {α β : Type}
    {items : List α}
    {pieces : α → List β}
    {item : α → β}
    (nonempty : ∀ x, pieces x ≠ []) :
    items.flatMap pieces = items.map item ↔ ∀ x ∈ items, pieces x = [item x] := by
  induction items with
  | nil =>
      simp
  | cons first others inductionHypothesis =>
      rw [List.flatMap_cons, List.map_cons, List.forall_mem_cons, ← inductionHypothesis]
      constructor
      · intro same
        obtain ⟨head, tail, shape⟩ := List.exists_cons_of_ne_nil (nonempty first)
        rw [shape, List.cons_append, List.cons.injEq] at same
        obtain ⟨sameHead, sameRest⟩ := same
        -- The other items have a piece each, so there is no room for a second one of the first.
        have enough : others.length ≤ (others.flatMap pieces).length := by
          rw [List.length_flatMap, ← List.length_map fun x => (pieces x).length]
          refine List.length_le_sum_of_one_le _ ?_
          exact List.forall_mem_map.mpr fun x _ => List.length_pos_of_ne_nil (nonempty x)
        have lengths := congrArg List.length sameRest
        rw [List.length_append, List.length_map] at lengths
        obtain rfl : tail = [] := List.length_eq_zero_iff.mp (by omega)
        rw [shape, sameHead]
        exact ⟨rfl, sameRest⟩
      · rintro ⟨single, later⟩
        rw [single, later, List.singleton_append]

/-- Lines are shown once each and in the colours of their marks exactly if every one of them is. -/
theorem flatMap_shownFor_eq_iff
    {colored : Bool}
    {body : List Text.Line} :
    body.flatMap (shownFor colored) =
        body.map (fun line => shownAs colored (markStyles line) line) ↔
      ∀ line ∈ body,
        (colored = true → startsAsFileHead line = false) ∧ Text.endsInOtherBreak line = false := by
  rw [flatMap_eq_map_iff (shownFor_ne_nil colored)]
  simp only [shownFor_eq_iff]

/-- The first two lines are bold, and the empty line behind the last line feed stays as it is. -/
theorem shownByMarks_cons_cons
    (colored : Bool)
    (current updated : Text.Line)
    (body : List Text.Line) :
    shownByMarks colored (current :: updated :: (body ++ [[]])) =
      shownAs colored [Style.bold] current :: shownAs colored [Style.bold] updated ::
        (body.map (fun line => shownAs colored (markStyles line) line) ++ [[]]) := by
  simp [shownByMarks, shownAs, markStyles, showReturns]

/-- A diff is its two lines for the files and its other lines, with a line feed behind each. -/
theorem exists_unified_eq
    {before after : String}
    (different : before ≠ after)
    (label : String) :
    ∃ body ≠ [],
      (∀ line ∈ body, IsBodyLine before after line) ∧
      unified before after label =
        String.ofList
          (Text.fed ((currentHead label).toList :: (updatedHead label).toList :: body)) := by
  obtain ⟨body, nonempty, isBody, shape⟩ := exists_unifiedLines_eq different label
  refine ⟨body.map Text.unfed, by simpa using nonempty, List.forall_mem_map.mpr isBody, ?_⟩
  have ended :
      (unifiedLines before after label).map Text.endLine =
        ((unifiedLines before after label).map Text.unfed).map fun line => line ++ ['\n'] := by
    rw [List.map_map]
    exact List.map_congr_left fun line _ => Text.endLine_eq line
  have cut :
      (unifiedLines before after label).map Text.unfed =
        (currentHead label).toList :: (updatedHead label).toList :: body.map Text.unfed := by
    rw [shape, List.map_cons, List.map_cons, Text.unfed_concat_feed, Text.unfed_concat_feed]
  rw [unified, if_neg different, ended, cut, Text.fed, List.flatMap_def]

/-- The lines for the files are written without line breaks if the label is. -/
theorem unbroken_fileHeads
    {label : String}
    (unbroken : ∀ c ∈ label.toList, Text.isLineBreak c = false) :
    (∀ c ∈ (currentHead label).toList, Text.isLineBreak c = false) ∧
      ∀ c ∈ (updatedHead label).toList, Text.isLineBreak c = false := by
  simp only [currentHead, updatedHead, String.toList_append, List.forall_mem_append]
  refine ⟨⟨⟨?_, unbroken⟩, ?_⟩, ⟨?_, unbroken⟩, ?_⟩
  all_goals exact Text.unbroken_of_any (by decide)

/--
The diff of different texts is shown with its two lines for the files in bold and its other lines
one below the other.  Each of these is shown once and in the colour of its mark exactly if none is
taken for the line of a file, as only colours show, and none ends in a break that the line feed
behind it does not complete.
-/
theorem previewText_unified
    {before after label : String}
    (different : before ≠ after)
    (unbroken : ∀ c ∈ label.toList, Text.isLineBreak c = false) :
    ∃ body ≠ [],
      (∀ line ∈ body, IsBodyLine before after line) ∧
      Text.lines (unified before after label) =
        (currentHead label).toList :: (updatedHead label).toList :: (body ++ [[]]) ∧
      ∀ colored : Bool,
        Text.lines (previewText colored false (unified before after label)) =
          shownAs colored [Style.bold] (currentHead label).toList ::
            shownAs colored [Style.bold] (updatedHead label).toList ::
              (body.flatMap (shownFor colored) ++ [[]]) ∧
        (Text.lines (previewText colored false (unified before after label)) =
            shownByMarks colored (Text.lines (unified before after label)) ↔
          ∀ line ∈ body,
            (colored = true → startsAsFileHead line = false) ∧
              Text.endsInOtherBreak line = false) := by
  obtain ⟨body, nonempty, isBody, shape⟩ := exists_unified_eq different label
  obtain ⟨currentUnbroken, updatedUnbroken⟩ := unbroken_fileHeads unbroken
  have breaksLast :
      ∀ line ∈ (currentHead label).toList :: (updatedHead label).toList :: body,
        Text.BreaksLast line := by
    rw [List.forall_mem_cons, List.forall_mem_cons]
    exact
      ⟨Text.breaksLast_of_unbroken currentUnbroken, Text.breaksLast_of_unbroken updatedUnbroken,
        fun line member => (isBody line member).breaksLast⟩
  have diffLines :
      Text.lines (unified before after label) =
        (currentHead label).toList :: (updatedHead label).toList :: (body ++ [[]]) := by
    rw [shape, Text.lines, String.toList_ofList]
    exact Text.splitOn_fed fun line member => (breaksLast line member).fedless
  refine ⟨body, nonempty, isBody, diffLines, fun colored => ?_⟩
  have shownLines :
      Text.lines (previewText colored false (unified before after label)) =
        shownAs colored [Style.bold] (currentHead label).toList ::
          shownAs colored [Style.bold] (updatedHead label).toList ::
            (body.flatMap (shownFor colored) ++ [[]]) := by
    rw [shape, lines_previewText_fed breaksLast, List.flatMap_cons, List.flatMap_cons,
      shownFor_fileHead (by simp [startsAsFileHead, currentHead]) currentUnbroken,
      shownFor_fileHead (by simp [startsAsFileHead, updatedHead]) updatedUnbroken]
    rfl
  refine ⟨shownLines, ?_⟩
  rw [shownLines, diffLines, shownByMarks_cons_cons, List.cons.injEq, List.cons.injEq,
    List.append_cancel_right_eq, flatMap_shownFor_eq_iff, eq_self, eq_self, true_and, true_and]

/-- A line with a carriage return, and a removed one with a single minus sign at its start. -/
theorem previewText_unified_returned :
    Text.lines (previewText true false (unified "a\r\n-x\n" "a\r\n" "f")) =
      shownByMarks true (Text.lines (unified "a\r\n-x\n" "a\r\n" "f")) := by
  have different : "a\r\n-x\n" ≠ "a\r\n" := by
    decide
  have unbroken : ∀ c ∈ "f".toList, Text.isLineBreak c = false :=
    Text.unbroken_of_any (by decide)
  obtain ⟨body, _, _, diffLines, shown⟩ := previewText_unified different unbroken
  have cut :
      Text.lines (unified "a\r\n-x\n" "a\r\n" "f") =
        (currentHead "f").toList :: (updatedHead "f").toList ::
          (["@@ -1,2 +1 @@".toList, " a\r".toList, "--x".toList] ++ [[]]) := by
    decide +kernel
  have bodyShape := (List.cons.inj (List.cons.inj (diffLines.symm.trans cut)).2).2
  rw [List.append_cancel_right bodyShape] at shown
  exact (shown true).2.mpr (by decide)

/--
A removed line that starts with two minus signs is shown in bold, and one that ends in a form feed
is shown as two lines, without colours too.
-/
theorem previewText_unified_misshown :
    Text.lines (previewText true false (unified "--x\n" "y\n" "f")) ≠
        shownByMarks true (Text.lines (unified "--x\n" "y\n" "f")) ∧
      (Text.lines (previewText false false (unified "x\x0c\n" "y\n" "f"))).length =
        (Text.lines (unified "x\x0c\n" "y\n" "f")).length + 1 := by
  decide +kernel

end BlockSync.Diff
