import BlockSync.Proofs.Anchor
import BlockSync.Proofs.Regex.Bounds
import Mathlib.Data.Set.Subsingleton

namespace BlockSync

/-!
# What an anchor locates

The lines that an anchor matches are looked through with a running offset.  What comes out is told
by the text alone: one matched line gives its place and that of the match in it, none and several
are failures, and the matched lines of the latter are listed in their order.
-/

namespace Text

/-- The number of characters of a text up to a number of line feeds, and including them. -/
def pastFeeds : Nat → List Char → Nat
  | 0, _ => 0
  | _ + 1, [] => 0
  | count + 1, c :: rest =>
      (if c = '\n' then pastFeeds count rest else pastFeeds (count + 1) rest) + 1

/-- The first line feed ends the first line. -/
theorem pastFeeds_append_cons
    {line : Line}
    (fedless : '\n' ∉ line)
    (count : Nat)
    (rest : List Char) :
    pastFeeds (count + 1) (line ++ '\n' :: rest) = line.length + 1 + pastFeeds count rest := by
  induction line with
  | nil =>
      simp [pastFeeds, Nat.add_comm]
  | cons c others inductionHypothesis =>
      rw [List.mem_cons, not_or] at fedless
      rw [List.cons_append, pastFeeds, if_neg (Ne.symm fedless.1), inductionHypothesis fedless.2,
        List.length_cons]
      omega

/-- A line starts where as many line feeds are past as there are lines above it. -/
theorem split_at_line
    {text : List Char}
    {above below : List Line}
    {line : Line}
    (cut : splitOn '\n' text = above ++ line :: below) :
    text = fed above ++ joinWith '\n' (line :: below) ∧
      pastFeeds above.length text = (fed above).length := by
  induction above generalizing text with
  | nil =>
      have joined := joinWith_splitOn '\n' text
      rw [cut] at joined
      exact ⟨joined.symm, by simp [pastFeeds, fed]⟩
  | cons first others inductionHypothesis =>
      obtain ⟨second, later, shape⟩ :=
        List.exists_cons_of_ne_nil (List.append_ne_nil_of_right_ne_nil others
          (List.cons_ne_nil line below))
      have fedless : '\n' ∉ first :=
        notMem_of_mem_splitOn (by rw [cut]; exact List.mem_cons_self)
      have joined := joinWith_splitOn '\n' text
      rw [cut, List.cons_append, shape, joinWith_cons_cons, ← shape] at joined
      rw [← joined, splitOn_append_cons fedless, List.cons_append, List.cons.injEq] at cut
      obtain ⟨restShape, restStart⟩ := inductionHypothesis cut.2
      rw [← joined, List.length_cons, pastFeeds_append_cons fedless, restStart]
      constructor
      · rw [restShape]
        simp [fed]
      · simp [fed, Nat.add_assoc, Nat.add_comm 1]

/-- A line stands between the lines above it and those below it. -/
theorem exists_split_of_getElem?
    {lines : List Line}
    {index : Nat}
    {line : Line}
    (here : lines[index]? = some line) :
    ∃ above below, lines = above ++ line :: below ∧ above.length = index := by
  obtain ⟨within, rfl⟩ := List.getElem?_eq_some_iff.mp here
  refine ⟨lines.take index, lines.drop (index + 1), ?_, ?_⟩
  · rw [← List.drop_eq_getElem_cons within, List.take_append_drop]
  · rw [List.length_take, Nat.min_eq_left (Nat.le_of_lt within)]

/-- A line without its carriage return is the front of the line. -/
theorem withoutReturn_prefix (line : Line) : withoutReturn line <+: line := by
  rw [withoutReturn]
  split
  · exact List.dropLast_prefix line
  · exact List.prefix_rfl

end Text

namespace Anchor

/-- The indices of the lines of a text that an anchor matches. -/
def matchingLines (anchor : Anchor) (text : String) : Set Nat :=
  {index | ∃ line, (Text.lines text)[index]? = some line ∧ anchor.matchesLine line = true}

/--
The match of an anchor in a line of a text: the line as it is, where the match starts and stops,
and what stands there.
-/
structure IsMatch (anchor : Anchor) (text : String) (span : Span) : Prop where
  excerpt :
    (Text.lines text)[span.line]? = some span.excerpt
  place :
    ∃ found,
      anchor.match? span.excerpt = some found ∧
        span.start = Text.pastFeeds span.line text.toList + found.start ∧
        span.stop = Text.pastFeeds span.line text.toList + found.stop ∧
        (text.toList.drop span.start).take (span.stop - span.start) =
          ((Text.withoutReturn span.excerpt).drop found.start).take (found.stop - found.start)
  startWithin :
    Text.pastFeeds span.line text.toList ≤ span.start ∧
      span.start ≤ Text.pastFeeds span.line text.toList + span.excerpt.length
  stopWithin :
    Text.pastFeeds span.line text.toList ≤ span.stop ∧
      span.stop ≤ Text.pastFeeds span.line text.toList + span.excerpt.length

/-- The match in the only line of a text that an anchor matches. -/
structure IsOnlyMatch (anchor : Anchor) (text : String) (span : Span) : Prop where
  isMatch :
    anchor.IsMatch text span
  only :
    anchor.matchingLines text = {span.line}

/--
Whether a text is split beside an excerpt: its parts make it up, and the excerpt is the line on
the side that an anchor asks for.
-/
def SplitsBeside
    (anchor : Anchor)
    (text : String)
    (index : Nat)
    (excerpt : Text.Line) :
    Prop :=
  Text.ofLines ((Text.lines text).take index ++ (Text.lines text).drop index) = text ∧
    match anchor.placement with
    | .before => ((Text.lines text).drop index).head? = some excerpt
    | .after => ((Text.lines text).take index).getLast? = some excerpt

variable {anchor : Anchor} {text : String} {span other : Span}

/-- The matches in lines are that of the first line, and those of the lines below it. -/
theorem mem_spansFrom_cons_iff
    {index offset : Nat}
    {line : Text.Line}
    {rest : List Text.Line} :
    span ∈ anchor.spansFrom index offset (line :: rest) ↔
      (∃ found,
        anchor.match? line = some found ∧
          span = ⟨index, offset + found.start, offset + found.stop, line⟩) ∨
        span ∈ anchor.spansFrom (index + 1) (offset + line.length + 1) rest := by
  rw [spansFrom]
  cases anchor.match? line <;> simp

/-- The matches in lines that start at a given index and offset. -/
theorem mem_spansFrom_iff
    {index offset : Nat}
    {lines : List Text.Line} :
    span ∈ anchor.spansFrom index offset lines ↔
      ∃ above line below found,
        lines = above ++ line :: below ∧
          anchor.match? line = some found ∧
          span =
            ⟨index + above.length, offset + (Text.fed above).length + found.start,
              offset + (Text.fed above).length + found.stop, line⟩ := by
  induction lines generalizing index offset with
  | nil =>
      simp [spansFrom]
  | cons first rest inductionHypothesis =>
      rw [mem_spansFrom_cons_iff, inductionHypothesis]
      constructor
      · rintro (⟨found, matched, rfl⟩ | ⟨above, line, below, found, rfl, matched, rfl⟩)
        · exact ⟨[], first, rest, found, rfl, matched, rfl⟩
        · refine ⟨first :: above, line, below, found, rfl, matched, ?_⟩
          simp [Text.fed, Nat.add_assoc, Nat.add_comm 1]
      · rintro ⟨above, line, below, found, shape, matched, rfl⟩
        cases above with
        | nil =>
            cases shape
            exact Or.inl ⟨found, matched, rfl⟩
        | cons head others =>
            cases shape
            refine Or.inr ⟨others, line, below, found, rfl, matched, ?_⟩
            simp [Text.fed, Nat.add_assoc, Nat.add_comm 1]

/-- The matches in lines are listed in the order of the lines. -/
theorem pairwise_spansFrom
    (index offset : Nat)
    (lines : List Text.Line) :
    (anchor.spansFrom index offset lines).Pairwise (·.line < ·.line) := by
  induction lines generalizing index offset with
  | nil =>
      exact List.Pairwise.nil
  | cons line rest inductionHypothesis =>
      rw [spansFrom]
      cases anchor.match? line with
      | none =>
          exact inductionHypothesis _ _
      | some found =>
          refine List.pairwise_cons.mpr ⟨fun later member => ?_, inductionHypothesis _ _⟩
          obtain ⟨above, _, _, _, _, _, rfl⟩ := mem_spansFrom_iff.mp member
          exact Nat.lt_of_lt_of_le (Nat.lt_succ_self index) (Nat.le_add_right _ _)

/-- What is matched in the middle of a text is what is matched in the line that stands there. -/
private theorem slice_eq
    {front bare tail : List Char}
    {start stop : Nat}
    (startWithin : start ≤ bare.length)
    (stopWithin : stop ≤ bare.length) :
    ((front ++ (bare ++ tail)).drop (front.length + start)).take
        (front.length + stop - (front.length + start)) =
      (bare.drop start).take (stop - start) := by
  have within : stop - start ≤ (bare.drop start).length := by
    rw [List.length_drop]
    exact Nat.sub_le_sub_right stopWithin start
  rw [List.drop_length_add_append, List.drop_append_of_le_length startWithin,
    Nat.add_sub_add_left, List.take_append_of_le_length within]

/-- The matches in a text are those of its lines. -/
theorem mem_spans_iff : span ∈ anchor.spans text ↔ anchor.IsMatch text span := by
  rw [spans, mem_spansFrom_iff]
  constructor
  · rintro ⟨above, line, below, found, shape, matched, rfl⟩
    obtain ⟨whole, start⟩ := Text.split_at_line shape
    obtain ⟨tail, bareShape⟩ := Text.withoutReturn_prefix line
    obtain ⟨startWithin, stopWithin⟩ := Regex.Pattern.bounds_of_search? matched
    have bareLength := (Text.withoutReturn_prefix line).length_le
    have parts :
        text.toList =
          Text.fed above ++ (Text.withoutReturn line ++ (tail ++ below.flatMap ('\n' :: ·))) := by
      rw [whole, Text.joinWith, ← List.append_assoc (Text.withoutReturn line), bareShape]
    simp only [Nat.zero_add]
    refine ⟨?_, ⟨found, matched, ?_, ?_, ?_⟩, ?_, ?_⟩
    · simp [shape]
    · simp only [start]
    · simp only [start]
    · simp only [parts]
      exact slice_eq startWithin stopWithin
    · simp only [start]
      omega
    · simp only [start]
      omega
  · rintro ⟨here, ⟨found, matched, start, stop, _⟩, _, _⟩
    obtain ⟨above, below, shape, count⟩ := Text.exists_split_of_getElem? here
    obtain ⟨_, lineStart⟩ := Text.split_at_line shape
    refine ⟨above, span.excerpt, below, found, shape, matched, ?_⟩
    rw [Nat.zero_add, Nat.zero_add, ← lineStart, count, ← start, ← stop]

/-- The lines that an anchor matches are those of its matches. -/
theorem mem_matchingLines_iff
    {index : Nat} :
    index ∈ anchor.matchingLines text ↔ index ∈ (anchor.spans text).map (·.line) := by
  rw [List.mem_map]
  constructor
  · rintro ⟨line, here, matched⟩
    obtain ⟨found, matched⟩ := Option.isSome_iff_exists.mp matched
    obtain ⟨above, below, shape, count⟩ := Text.exists_split_of_getElem? here
    exact
      ⟨_, mem_spansFrom_iff.mpr ⟨above, line, below, found, shape, matched, rfl⟩,
        (Nat.zero_add _).trans count⟩
  · rintro ⟨span, member, rfl⟩
    obtain ⟨here, ⟨found, matched, _⟩, _, _⟩ := mem_spans_iff.mp member
    exact ⟨span.excerpt, here, by rw [matchesLine, matched]; rfl⟩

/-- A line has at most one match. -/
theorem IsMatch.eq_of_line_eq
    (isMatch : anchor.IsMatch text span)
    (otherIsMatch : anchor.IsMatch text other)
    (sameLine : span.line = other.line) :
    span = other := by
  obtain ⟨line, start, stop, excerpt⟩ := span
  obtain ⟨_, otherStart, otherStop, otherExcerpt⟩ := other
  obtain rfl : line = _ := sameLine
  obtain ⟨here, ⟨found, matched, startHere, stopHere, _⟩, _, _⟩ := isMatch
  obtain ⟨there, ⟨otherFound, otherMatched, startThere, stopThere, _⟩, _, _⟩ := otherIsMatch
  obtain rfl : excerpt = otherExcerpt := Option.some.inj (here.symm.trans there)
  obtain rfl : found = otherFound := Option.some.inj (matched.symm.trans otherMatched)
  obtain rfl : start = otherStart := startHere.trans startThere.symm
  obtain rfl : stop = otherStop := stopHere.trans stopThere.symm
  rfl

/-- Every line that an anchor matches has a match. -/
theorem exists_isMatch
    {index : Nat}
    (matched : index ∈ anchor.matchingLines text) :
    ∃ span, anchor.IsMatch text span ∧ span.line = index := by
  obtain ⟨span, member, place⟩ := List.mem_map.mp (mem_matchingLines_iff.mp matched)
  exact ⟨span, mem_spans_iff.mp member, place⟩

/-- There is no match exactly if no line is matched. -/
theorem spans_eq_nil_iff : anchor.spans text = [] ↔ anchor.matchingLines text = ∅ := by
  rw [Set.eq_empty_iff_forall_notMem, ← List.map_eq_nil_iff (f := (·.line)),
    List.eq_nil_iff_forall_not_mem]
  exact forall_congr' fun _ => not_congr mem_matchingLines_iff.symm

/-- There is one match exactly if there is one line that is matched. -/
theorem spans_eq_singleton_iff : anchor.spans text = [span] ↔ anchor.IsOnlyMatch text span := by
  constructor
  · intro only
    refine ⟨mem_spans_iff.mp (by rw [only]; exact List.mem_singleton_self span), ?_⟩
    ext index
    rw [mem_matchingLines_iff, only, List.map_singleton, List.mem_singleton,
      Set.mem_singleton_iff]
  · rintro ⟨isMatch, only⟩
    have nodup : (anchor.spans text).Nodup :=
      (pairwise_spansFrom 0 0 _).imp fun ordered same => by
        rw [same] at ordered
        exact Nat.lt_irrefl _ ordered
    refine List.perm_singleton.mp
      ((List.perm_ext_iff_of_nodup nodup (List.pairwise_singleton _ span)).mpr ?_)
    intro other
    rw [mem_spans_iff, List.mem_singleton]
    constructor
    · intro otherIsMatch
      have place : other.line ∈ anchor.matchingLines text :=
        mem_matchingLines_iff.mpr (List.mem_map_of_mem (mem_spans_iff.mpr otherIsMatch))
      rw [only] at place
      exact otherIsMatch.eq_of_line_eq isMatch place
    · rintro rfl
      exact isMatch

/-- A match is located exactly if it is that of the only line that is matched. -/
theorem locate_eq_ok_iff : anchor.locate text = .ok span ↔ anchor.IsOnlyMatch text span := by
  rw [← spans_eq_singleton_iff, locate]
  split
  · next none => simp [none]
  · next only => simp [only]
  · next notOnly => simpa using notOnly span

/-- A match is located exactly if one line is matched. -/
theorem exists_locate_eq_ok_iff :
    (∃ span, anchor.locate text = .ok span) ↔ ∃! line, line ∈ anchor.matchingLines text := by
  constructor
  · rintro ⟨span, located⟩
    obtain ⟨_, only⟩ := locate_eq_ok_iff.mp located
    rw [only]
    exact ⟨span.line, rfl, fun _ same => same⟩
  · rintro ⟨line, matched, unique⟩
    obtain ⟨span, isMatch, rfl⟩ := exists_isMatch matched
    refine ⟨span, locate_eq_ok_iff.mpr ⟨isMatch, ?_⟩⟩
    exact Set.eq_singleton_iff_unique_mem.mpr ⟨matched, unique⟩

/-- An anchor is not found exactly if no line is matched. -/
theorem locate_eq_notFound_iff :
    anchor.locate text = .error (.notFound anchor.description text) ↔
      anchor.matchingLines text = ∅ := by
  rw [← spans_eq_nil_iff, locate]
  split
  · next none => simp [none]
  · next only => simp [only]
  · next notNone _ => simpa using notNone

/-- An anchor is ambiguous exactly if several lines are matched. -/
theorem locate_eq_ambiguous_iff :
    anchor.locate text =
        .error (.ambiguous anchor.description text ((anchor.spans text).map (·.line))) ↔
      (anchor.matchingLines text).Nontrivial := by
  have ordered : (anchor.spans text).Pairwise (·.line < ·.line) :=
    pairwise_spansFrom 0 0 _
  rw [locate]
  cases shape : anchor.spans text with
  | nil =>
      have empty : anchor.matchingLines text = ∅ :=
        spans_eq_nil_iff.mp shape
      simp [empty]
  | cons first others =>
      cases others with
      | nil =>
          have only : anchor.matchingLines text = {first.line} :=
            (spans_eq_singleton_iff.mp shape).only
          simp [only]
      | cons second rest =>
          rw [shape] at ordered
          have different : first.line ≠ second.line :=
            Nat.ne_of_lt (List.rel_of_pairwise_cons ordered List.mem_cons_self)
          have matched : ∀ span ∈ [first, second], span.line ∈ anchor.matchingLines text := by
            intro span member
            rw [mem_matchingLines_iff, shape]
            exact List.mem_map_of_mem (List.mem_append_left rest member)
          exact
            iff_of_true rfl
              ⟨first.line, matched first (by simp), second.line, matched second (by simp),
                different⟩

/-- An anchor is refused as ambiguous, whatever lines are named, if several are matched. -/
theorem exists_locate_eq_ambiguous_iff :
    (∃ lines, anchor.locate text = .error (.ambiguous anchor.description text lines)) ↔
      (anchor.matchingLines text).Nontrivial := by
  rw [← locate_eq_ambiguous_iff]
  constructor
  · rintro ⟨lines, refused⟩
    rw [locate] at refused ⊢
    split at refused
    · cases refused
    · cases refused
    · rfl
  · exact fun refused => ⟨_, refused⟩

/-- Lines are placed beside the line that is located, and nowhere if none is. -/
theorem insertionIndex_eq_map (anchor : Anchor) (text : String) :
    anchor.insertionIndex text =
      (anchor.locate text).map fun span => anchor.indexBeside span.line := by
  rw [insertionIndex]
  cases anchor.locate text <;> rfl

/-- A text is split beside the line that is located. -/
theorem IsMatch.splitsBeside
    (isMatch : anchor.IsMatch text span) :
    anchor.SplitsBeside text (anchor.indexBeside span.line) span.excerpt := by
  refine ⟨by rw [List.take_append_drop, Text.ofLines_lines], ?_⟩
  rw [indexBeside]
  cases anchor.placement with
  | before =>
      rw [← isMatch.excerpt]
      exact List.head?_drop
  | after =>
      simp [List.getLast?_take, isMatch.excerpt]

/--
An anchor locates exactly the only line that it matches: its index, its characters, and the place
of the match in the text.  Otherwise it is not found or ambiguous, with all the lines that it
matches in their order.  Lines are placed at the side of the located line, in a text that is the
same when it is put together again.
-/
theorem locate_exact (anchor : Anchor) (text : String) :
    (∀ span, anchor.locate text = .ok span ↔ anchor.IsOnlyMatch text span) ∧
      ((∃ span, anchor.locate text = .ok span) ↔ ∃! line, line ∈ anchor.matchingLines text) ∧
      (anchor.locate text = .error (.notFound anchor.description text) ↔
        anchor.matchingLines text = ∅) ∧
      (∃ lines : List Nat,
        lines.Pairwise (· < ·) ∧
          (∀ line, line ∈ lines ↔ line ∈ anchor.matchingLines text) ∧
          (anchor.locate text = .error (.ambiguous anchor.description text lines) ↔
            (anchor.matchingLines text).Nontrivial)) ∧
      anchor.insertionIndex text =
        (anchor.locate text).map (fun span => anchor.indexBeside span.line) ∧
      ∀ span, anchor.locate text = .ok span →
        anchor.SplitsBeside text (anchor.indexBeside span.line) span.excerpt := by
  have listed :
      ∀ line, line ∈ (anchor.spans text).map (·.line) ↔ line ∈ anchor.matchingLines text :=
    fun _ => mem_matchingLines_iff.symm
  have ordered : ((anchor.spans text).map (·.line)).Pairwise (· < ·) :=
    List.pairwise_map.mpr (pairwise_spansFrom 0 0 _)
  exact
    ⟨fun _ => locate_eq_ok_iff, exists_locate_eq_ok_iff, locate_eq_notFound_iff,
      ⟨_, ordered, listed, locate_eq_ambiguous_iff⟩, insertionIndex_eq_map anchor text,
      fun _ located => (locate_eq_ok_iff.mp located).isMatch.splitsBeside⟩

/-- Carriage returns above and in the located line count as characters of the text. -/
theorem isOnlyMatch_of_returns :
    (literal "x" .after "").IsOnlyMatch "a\r\nbx\r\nc" ⟨1, 4, 5, "bx\r".toList⟩ ∧
      (literal "x" .after "").SplitsBeside "a\r\nbx\r\nc" 2 "bx\r".toList := by
  have located :
      (literal "x" .after "").locate "a\r\nbx\r\nc" = .ok ⟨1, 4, 5, "bx\r".toList⟩ := by
    rfl
  obtain ⟨isOnly, _, _, _, _, splits⟩ := locate_exact (literal "x" .after "") "a\r\nbx\r\nc"
  exact ⟨(isOnly _).mp located, splits _ located⟩

end Anchor

end BlockSync
