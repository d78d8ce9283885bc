import BlockSync.Diff.Unified
import BlockSync.Proofs.Diff.Matching
import BlockSync.Proofs.Text.LineBreak

namespace BlockSync.Diff

/-!
# The lines of a unified diff

The diff of different texts has two lines for the files and at least one hunk.  Every other line is
the head of a hunk, or a line of one of the texts behind its mark, so it has no line break but at
its end.
-/

section Stretches

variable {α : Type} {left right : List α} {runs : List Run}

/-- Sequences without differing stretches from two places on are the same from there. -/
theorem drop_eq_of_common
    {start rightStart : Nat}
    (ordered : Ordered left.length right.length start rightStart runs)
    (common : ∀ run ∈ runs, ∀ step < run.length,
      left[run.left + step]? = right[run.right + step]?)
    (noneDiffers :
      ∀ stretch ∈ stretchesFrom left.length right.length start rightStart runs,
        stretch.isCommon = true) :
    left.drop start = right.drop rightStart := by
  induction runs generalizing start rightStart with
  | nil =>
      rw [stretchesFrom] at noneDiffers
      split at noneDiffers
      · cases noneDiffers _ List.mem_cons_self
      · rw [List.drop_eq_nil_of_le (by omega), List.drop_eq_nil_of_le (by omega)]
  | cons run others inductionHypothesis =>
      obtain ⟨leftOrder, rightOrder, orderedLater⟩ := ordered
      obtain ⟨runCommon, commonLater⟩ := List.forall_mem_cons.mp common
      rw [stretchesFrom] at noneDiffers
      have later :=
        inductionHypothesis orderedLater commonLater fun stretch member =>
          noneDiffers stretch (List.mem_append_right _ (List.mem_cons_of_mem _ member))
      have adjacent : ¬ (start < run.left ∨ rightStart < run.right) := by
        intro gap
        rw [if_pos gap] at noneDiffers
        cases noneDiffers _ (List.mem_append_left _ List.mem_cons_self)
      obtain rfl : start = run.left := by omega
      obtain rfl : rightStart = run.right := by omega
      -- Within the run the items agree by themselves, and behind it by the runs that follow.
      apply List.ext_getElem?
      intro index
      rw [List.getElem?_drop, List.getElem?_drop]
      by_cases inRun : index < run.length
      · exact runCommon index inRun
      · have same := congrArg (·[index - run.length]?) later
        simp only [List.getElem?_drop] at same
        rwa [Nat.add_assoc, Nat.add_sub_of_le (by omega), Nat.add_assoc,
          Nat.add_sub_of_le (by omega)] at same

/-- Different sequences have a stretch that differs. -/
theorem exists_differing
    [BEq α]
    [LawfulBEq α]
    (different : left ≠ right) :
    ∃ stretch ∈ stretchesFrom left.length right.length 0 0 (commonRuns left right),
      stretch.isCommon = false := by
  by_contra none
  obtain ⟨common, ordered⟩ := commonRuns_spec left right
  refine different (drop_eq_of_common ordered common fun stretch member => ?_)
  by_contra differs
  exact none ⟨stretch, member, by simpa using differs⟩

end Stretches

section Hunks

variable {stretches : List Stretch} {hunk : List Stretch}

/-- Whether some stretch differs. -/
def Differs (stretches : List Stretch) : Prop :=
  ∃ stretch ∈ stretches, stretch.isCommon = false

/-- A common stretch that is cut is still common. -/
theorem isCommon_onCommon
    (change : Stretch → Stretch)
    (kept : ∀ stretch : Stretch, (change stretch).isCommon = stretch.isCommon)
    (stretch : Stretch) :
    (onCommon change stretch).isCommon = stretch.isCommon := by
  rw [onCommon]
  split
  · exact kept stretch
  · rfl

/-- Cutting the last stretch does not change which ones differ. -/
private theorem map_isCommon_trimLast (stretches : List Stretch) :
    (trimLast stretches).map Stretch.isCommon = stretches.map Stretch.isCommon := by
  cases stretches using List.reverseRecOn with
  | nil =>
      rfl
  | append_singleton earlier last =>
      rw [trimLast, List.getLast?_concat, List.dropLast_concat, List.map_append, List.map_append,
        List.map_singleton, List.map_singleton, isCommon_onCommon Stretch.head fun _ => rfl]

/-- Cutting the first and the last stretch does not change which ones differ. -/
theorem map_isCommon_trimEnds (stretches : List Stretch) :
    (trimEnds stretches).map Stretch.isCommon = stretches.map Stretch.isCommon := by
  cases stretches with
  | nil =>
      rfl
  | cons first others =>
      rw [trimEnds, map_isCommon_trimLast, List.map_cons, List.map_cons,
        isCommon_onCommon Stretch.tail fun _ => rfl]

/-- Some stretch differs exactly if the truth values say so. -/
private theorem differs_iff : Differs stretches ↔ false ∈ stretches.map Stretch.isCommon := by
  simp [Differs]

/-- The hunks that are done stay; the current one goes on with the stretch or its first lines. -/
private theorem cut_spec
    (state : List (List Stretch) × List Stretch)
    (stretch : Stretch) :
    (∀ hunk ∈ state.1, hunk ∈ allHunks (cut state stretch)) ∧
      ∃ added : Stretch,
        state.2 ++ [added] ∈ allHunks (cut state stretch) ∧
          added.isCommon = stretch.isCommon := by
  rw [cut]
  split
  · refine ⟨fun hunk isDone => ?_, stretch.head, ?_, rfl⟩
    · simp [allHunks, isDone]
    · simp [allHunks]
  · refine ⟨fun hunk isDone => ?_, stretch, ?_, rfl⟩
    · simp [allHunks, isDone]
    · simp [allHunks]

/-- A stretch that differs is put into a hunk, and a hunk that differs still does so. -/
private theorem exists_differs_cut
    {state : List (List Stretch) × List Stretch}
    {stretch : Stretch}
    (differs : (∃ hunk ∈ allHunks state, Differs hunk) ∨ stretch.isCommon = false) :
    ∃ hunk ∈ allHunks (cut state stretch), Differs hunk := by
  obtain ⟨doneStays, added, goesOn, sameKind⟩ := cut_spec state stretch
  rcases differs with ⟨hunk, member, inHunk⟩ | differs
  · rcases List.mem_append.mp member with isDone | isCurrent
    · exact ⟨hunk, doneStays hunk isDone, inHunk⟩
    · rw [List.mem_singleton.mp isCurrent] at inHunk
      obtain ⟨other, inCurrent, otherDiffers⟩ := inHunk
      exact ⟨_, goesOn, other, List.mem_append_left _ inCurrent, otherDiffers⟩
  · have isLast : added ∈ state.2 ++ [added] :=
      List.mem_append_right _ List.mem_cons_self
    exact ⟨_, goesOn, added, isLast, sameKind.trans differs⟩

/-- A stretch that differs is in some hunk after all stretches. -/
private theorem exists_differs_foldl
    (state : List (List Stretch) × List Stretch)
    (differs : (∃ hunk ∈ allHunks state, Differs hunk) ∨ Differs stretches) :
    ∃ hunk ∈ allHunks (stretches.foldl cut state), Differs hunk := by
  induction stretches generalizing state with
  | nil =>
      refine differs.resolve_right ?_
      rintro ⟨stretch, member, _⟩
      cases member
  | cons first others inductionHypothesis =>
      refine inductionHypothesis (cut state first) ?_
      rcases differs with inState | ⟨stretch, member, stretchDiffers⟩
      · exact .inl (exists_differs_cut (.inl inState))
      · rcases List.mem_cons.mp member with rfl | isLater
        · exact .inl (exists_differs_cut (.inr stretchDiffers))
        · exact .inr ⟨stretch, isLater, stretchDiffers⟩

/-- Stretches of which one differs have a hunk with a stretch that differs. -/
theorem exists_hunk (differs : Differs stretches) :
    ∃ hunk ∈ hunks stretches, Differs hunk := by
  have trimmedDiffers : Differs (trimEnds stretches) := by
    rw [differs_iff, map_isCommon_trimEnds, ← differs_iff]
    exact differs
  obtain ⟨hunk, member, inHunk⟩ :=
    exists_differs_foldl ([], []) (.inr trimmedDiffers)
  refine ⟨hunk, List.mem_filter.mpr ⟨member, ?_⟩, inHunk⟩
  obtain ⟨stretch, inHunk, stretchDiffers⟩ := inHunk
  cases hunk with
  | nil =>
      cases inHunk
  | cons first others =>
      cases others with
      | nil =>
          rw [isShown, ← List.mem_singleton.mp inHunk, stretchDiffers]
          rfl
      | cons second others =>
          rfl

end Hunks

/-- The line for the text as it is. -/
def currentHead (label : String) : String :=
  "--- " ++ label ++ " (current)"

/-- The line for the text as it will be. -/
def updatedHead (label : String) : String :=
  "+++ " ++ label ++ " (updated)"

/-- The line in front of a hunk. -/
def hunkHead (left leftEnd right rightEnd : Nat) : String :=
  "@@ -" ++ rangeText left leftEnd ++ " +" ++ rangeText right rightEnd ++ " @@"

/-- Whether a line, without its line feed, can stand behind the two lines for the files. -/
inductive IsBodyLine (before after : String) : Text.Line → Prop where
  | head (left leftEnd right rightEnd : Nat) :
      IsBodyLine before after (hunkHead left leftEnd right rightEnd).toList
  | kept (host : List Char) :
      host ∈ Text.breakLines before.toList →
      IsBodyLine before after (' ' :: Text.unfed host)
  | removed (host : List Char) :
      host ∈ Text.breakLines before.toList →
      IsBodyLine before after ('-' :: Text.unfed host)
  | added (host : List Char) :
      host ∈ Text.breakLines after.toList →
      IsBodyLine before after ('+' :: Text.unfed host)

/-- Numbers are written without line breaks. -/
theorem unbroken_repr (number : Nat) :
    ∀ c ∈ (toString number).toList, Text.isLineBreak c = false := by
  intro c member
  have member : c ∈ Nat.toDigits 10 number := by
    simpa [toString] using member
  have isDigit := Nat.isDigit_of_mem_toDigits (by decide) (by decide) member
  simp only [Char.isDigit, Bool.and_eq_true, decide_eq_true_eq] at isDigit
  have atLeast : 48 ≤ c.toNat := isDigit.1
  have atMost : c.toNat ≤ 57 := isDigit.2
  simp only [Text.isLineBreak, Bool.or_eq_false_iff, Bool.and_eq_false_iff, decide_eq_false_iff_not,
    beq_eq_false_iff_ne]
  omega

/-- The range of a hunk is written without line breaks. -/
theorem unbroken_rangeText (start stop : Nat) :
    ∀ c ∈ (rangeText start stop).toList, Text.isLineBreak c = false := by
  rw [rangeText]
  split
  · exact unbroken_repr _
  · split
    · rw [String.toList_append]
      exact List.forall_mem_append.mpr ⟨unbroken_repr _, Text.unbroken_of_any (by decide)⟩
    · rw [String.toList_append, String.toList_append]
      refine List.forall_mem_append.mpr ⟨?_, unbroken_repr _⟩
      exact List.forall_mem_append.mpr ⟨unbroken_repr _, Text.unbroken_of_any (by decide)⟩

/-- The head of a hunk is written without line breaks. -/
theorem unbroken_hunkHead (left leftEnd right rightEnd : Nat) :
    ∀ c ∈ (hunkHead left leftEnd right rightEnd).toList, Text.isLineBreak c = false := by
  simp only [hunkHead, String.toList_append, List.forall_mem_append]
  refine ⟨⟨⟨⟨?_, unbroken_rangeText _ _⟩, ?_⟩, unbroken_rangeText _ _⟩, ?_⟩
  all_goals exact Text.unbroken_of_any (by decide)

variable {before after : String} {line : List Char}

/-- A line of a hunk has its only break at its end. -/
theorem IsBodyLine.breaksLast (isBody : IsBodyLine before after line) : Text.BreaksLast line := by
  cases isBody with
  | head left leftEnd right rightEnd =>
      exact Text.breaksLast_of_unbroken (unbroken_hunkHead _ _ _ _)
  | kept host member | removed host member | added host member =>
      exact (Text.breaksLast_unfed_of_mem member).cons (by decide)

/-- The lines of a slice are lines of the array. -/
theorem mem_of_mem_slice
    {items : List (List Char)}
    {start stop : Nat}
    (member : line ∈ slice items.toArray start stop) :
    line ∈ items := by
  rw [slice, List.extract_toArray, List.extract_eq_take_drop] at member
  exact List.mem_of_mem_drop (List.mem_of_mem_take member)

/-- The lines of a hunk are its head and lines of the texts behind their marks. -/
theorem isBodyLine_of_mem_hunkLines
    {hunk : List Stretch}
    (member : line ∈ hunkLines (Text.breakLines before.toList).toArray
      (Text.breakLines after.toList).toArray hunk) :
    IsBodyLine before after (Text.unfed line) := by
  rw [hunkLines] at member
  split at member
  · next first last _ _ =>
    rcases List.mem_cons.mp member with rfl | member
    · have headLine :
          ("@@ -" ++ rangeText first.left last.leftEnd ++ " +" ++
              rangeText first.right last.rightEnd ++ " @@\n").toList =
            (hunkHead first.left last.leftEnd first.right last.rightEnd).toList ++ ['\n'] := by
        simp [hunkHead]
      rw [headLine, Text.unfed_concat_feed]
      exact .head _ _ _ _
    · obtain ⟨stretch, _, inStretch⟩ := List.mem_flatMap.mp member
      rw [Stretch.lines] at inStretch
      split at inStretch
      · obtain ⟨host, inSlice, rfl⟩ := List.mem_map.mp inStretch
        rw [Text.unfed_cons (by decide)]
        exact .kept host (mem_of_mem_slice inSlice)
      · rcases List.mem_append.mp inStretch with inLeft | inRight
        · obtain ⟨host, inSlice, rfl⟩ := List.mem_map.mp inLeft
          rw [Text.unfed_cons (by decide)]
          exact .removed host (mem_of_mem_slice inSlice)
        · obtain ⟨host, inSlice, rfl⟩ := List.mem_map.mp inRight
          rw [Text.unfed_cons (by decide)]
          exact .added host (mem_of_mem_slice inSlice)
  · cases member

/-- A hunk that differs has lines. -/
theorem hunkLines_ne_nil
    {hunk : List Stretch}
    (differs : Differs hunk)
    (left right : Array (List Char)) :
    hunkLines left right hunk ≠ [] := by
  obtain ⟨stretch, member, _⟩ := differs
  obtain ⟨first, others, rfl⟩ := List.exists_cons_of_ne_nil (List.ne_nil_of_mem member)
  rw [hunkLines, List.head?_cons, List.getLast?_cons]
  exact List.cons_ne_nil _ _

/-- The diff of different texts has the lines for the files and a hunk at least. -/
theorem exists_unifiedLines_eq
    (different : before ≠ after)
    (label : String) :
    ∃ body ≠ [],
      (∀ line ∈ body, IsBodyLine before after (Text.unfed line)) ∧
      unifiedLines before after label =
        ((currentHead label).toList ++ ['\n']) :: ((updatedHead label).toList ++ ['\n']) ::
          body := by
  have linesDiffer : Text.breakLines before.toList ≠ Text.breakLines after.toList := by
    intro same
    refine different (String.toList_inj.mp ?_)
    rw [← Text.flatten_breakLines before.toList, same, Text.flatten_breakLines]
  obtain ⟨hunk, isHunk, differs⟩ := exists_hunk (exists_differing linesDiffer)
  obtain ⟨line, inHunk⟩ :=
    List.exists_mem_of_ne_nil _
      (hunkLines_ne_nil differs (Text.breakLines before.toList).toArray
        (Text.breakLines after.toList).toArray)
  have inBody := List.mem_flatMap.mpr ⟨hunk, isHunk, inHunk⟩
  refine ⟨_, List.ne_nil_of_mem inBody, ?_, ?_⟩
  · intro line member
    obtain ⟨hunk, _, inHunk⟩ := List.mem_flatMap.mp member
    exact isBodyLine_of_mem_hunkLines inHunk
  · have nonempty := List.isEmpty_eq_false_iff.mpr (List.ne_nil_of_mem inBody)
    rw [unifiedLines, if_neg (by rw [nonempty]; decide)]
    simp [currentHead, updatedHead]

end BlockSync.Diff
