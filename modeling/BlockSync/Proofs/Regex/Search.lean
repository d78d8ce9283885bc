import BlockSync.Regex.Matcher
import Mathlib.Data.List.Infix

namespace BlockSync.Regex

/-!
# Searching for plain words

The matcher tries the positions of a text from left to right, so a search answers with the first
position at which the pattern matches.  A pattern that starts with a plain word can only match
where that word is ahead.
-/

/-- What matches where a word ends: a blank character, or the end of the line. -/
abbrev wordEnd : Node :=
  .ofAlternatives
    [.char (.set .exact false [.category ⟨.blank, false, false⟩]),
      .place .finalLineEnd]

/-- A literal that is compared exactly accepts one character. -/
@[simp] theorem CharTest.accepts_exact_literal
    (code : Nat)
    (c : Char) :
    (CharTest.literal .exact false code).accepts c = (c.toNat == code) := by
  rw [Bool.eq_iff_iff]
  simp [CharTest.accepts, Casing.agrees, Casing.variants, Casing.fold]

/-- A plain word that is ahead is passed, and the match goes on behind it. -/
theorem Node.run_ofText
    {word rest : List Char}
    (next? : Option Nat)
    (state : State)
    (continuation : Continuation)
    (ahead : state.cursor.ahead = word ++ rest) :
    (Node.ofText word).run next? state continuation =
      continuation
        (state.moveTo
          ⟨word.reverse ++ state.cursor.behind, rest,
            state.cursor.offset + word.length⟩) := by
  induction word generalizing next? state with
  | nil =>
      obtain ⟨⟨behind, text, offset⟩, left, starts, ends⟩ := state
      cases ahead
      rfl
  | cons c others inductionHypothesis =>
      obtain ⟨⟨behind, text, offset⟩, left, starts, ends⟩ := state
      rw [List.cons_append] at ahead
      subst ahead
      have further :=
        inductionHypothesis next?
          ⟨⟨c :: behind, others ++ rest, offset + 1⟩, left, starts, ends⟩ rfl
      simp only [Node.ofText, List.foldr_cons, Node.run, Cursor.pass?,
        CharTest.accepts_exact_literal, beq_self_eq_true,
        ↓reduceIte, State.moveTo] at further ⊢
      rw [further]
      simp [Nat.add_assoc, Nat.add_comm 1]

/-- Where a plain word is not ahead, the attempt fails and leaves everything as it was. -/
theorem Node.run_ofText_of_not_prefix
    {word : List Char}
    (next? : Option Nat)
    (state : State)
    (continuation : Continuation)
    (different : ¬ word <+: state.cursor.ahead) :
    (Node.ofText word).run next? state continuation = .failed state.left := by
  induction word generalizing next? state with
  | nil =>
      exact (different List.nil_prefix).elim
  | cons c others inductionHypothesis =>
      obtain ⟨⟨behind, text, offset⟩, left, starts, ends⟩ := state
      cases text with
      | nil =>
          simp [Node.ofText, Node.run, Cursor.pass?]
      | cons d rest =>
          by_cases same : d = c
          · subst d
            have restDifferent : ¬ others <+: rest := by
              intro restPrefix
              exact different ((List.prefix_cons_inj c).mpr restPrefix)
            have further :=
              inductionHypothesis next?
                ⟨⟨c :: behind, rest, offset + 1⟩, left, starts, ends⟩
                restDifferent
            simpa [Node.ofText, Node.run, Cursor.pass?, State.moveTo] using
              further
          · have codes : (d.toNat == c.toNat) = false := by
              rw [beq_eq_false_iff_ne]
              exact fun equal => same (Char.toNat_inj.mp equal)
            simp [Node.ofText, Node.run, Cursor.pass?, codes]

/-- A plain word asks for no more characters than it has. -/
theorem Node.least_width_ofText_le (word : List Char) :
    (Node.ofText word).width.least ≤ word.length := by
  induction word with
  | nil =>
      simp [Node.ofText, Node.width]
  | cons c rest inductionHypothesis =>
      simp only [Node.ofText, List.foldr_cons, Node.width, Width.capped,
        List.length_cons] at inductionHypothesis ⊢
      omega

namespace Pattern

/-- Whether a pattern matches at a position, given the characters before it and those after it. -/
def MatchesBetween
    (pattern : Pattern)
    (before after : List Char)
    (stop : Nat) : Prop :=
  pattern.matchAt? ⟨before.reverse, after, before.length⟩ = some stop

/-- Whether no match is shorter than the least length that the tree of a pattern promises. -/
def WidthSound (pattern : Pattern) : Prop :=
  ∀ before after stop,
    pattern.MatchesBetween before after stop →
    pattern.root.width.least ≤ after.length

/-- Matching starts at a position, without any group. -/
theorem exists_start
    (pattern : Pattern)
    (before after : List Char) :
    ∃ state : State,
      state.cursor = ⟨before.reverse, after, before.length⟩ ∧
        ∀ stop,
          pattern.MatchesBetween before after stop ↔
            (pattern.root.run none state settle).state?.map (·.cursor.offset) =
              some stop :=
  ⟨_, rfl, fun _ => Iff.rfl⟩

/-- A search that passes no match comes to the end of the text. -/
private theorem searchFrom?_eq_none
    {pattern : Pattern}
    {text : List Char}
    (unmatched :
      ∀ before after stop,
        text = before ++ after →
        ¬ pattern.MatchesBetween before after stop) :
    ∀ (limit : Nat) (before after : List Char),
      text = before ++ after →
      pattern.searchFrom? limit before.reverse before.length after = none := by
  intro limit
  induction limit with
  | zero =>
      intro before after _
      rfl
  | succ limit inductionHypothesis =>
      intro before after shape
      have here :
          pattern.matchAt? ⟨before.reverse, after, before.length⟩ = none := by
        cases found : pattern.matchAt? ⟨before.reverse, after, before.length⟩ with
        | none =>
            rfl
        | some stop =>
            exact (unmatched before after stop shape found).elim
      cases after with
      | nil =>
          simp [searchFrom?, here]
      | cons c rest =>
          have further :=
            inductionHypothesis (before ++ [c]) rest (by simp [shape])
          simpa [searchFrom?, here] using further

/-- A search ends at the first match, if that lies among the positions it tries. -/
private theorem searchFrom?_eq_some
    {pattern : Pattern}
    {text before after : List Char}
    {stop : Nat}
    (shape : text = before ++ after)
    (found : pattern.MatchesBetween before after stop)
    (first :
      ∀ earlier later stop,
        text = earlier ++ later →
        earlier.length < before.length →
        ¬ pattern.MatchesBetween earlier later stop) :
    ∀ (limit : Nat) (earlier later : List Char),
      text = earlier ++ later →
      earlier.length ≤ before.length →
      before.length < earlier.length + limit →
      pattern.searchFrom? limit earlier.reverse earlier.length later =
        some ⟨before.length, stop⟩ := by
  intro limit
  induction limit with
  | zero =>
      intro earlier later _ _ inLimit
      omega
  | succ limit inductionHypothesis =>
      intro earlier later split notPast inLimit
      by_cases reached : earlier.length = before.length
      · obtain ⟨sameBefore, sameAfter⟩ :=
          List.append_inj (split.symm.trans shape) reached
        subst earlier later
        simp only [searchFrom?, show
          pattern.matchAt? ⟨before.reverse, after, before.length⟩ = some stop
          from found]
      · have here :
            pattern.matchAt? ⟨earlier.reverse, later, earlier.length⟩ = none := by
          cases found :
              pattern.matchAt? ⟨earlier.reverse, later, earlier.length⟩ with
          | none =>
              rfl
          | some stop =>
              exact
                (first earlier later stop split (by omega) found).elim
        cases later with
        | nil =>
            have lengths := congrArg List.length (split.symm.trans shape)
            simp only [List.length_append, List.length_nil] at lengths
            omega
        | cons c rest =>
            have further :=
              inductionHypothesis (earlier ++ [c]) rest
                (by simp [split])
                (by simp only [List.length_append, List.length_singleton]; omega)
                (by simp only [List.length_append, List.length_singleton]; omega)
            simpa [searchFrom?, here] using further

/-- Enough positions are tried to find each match that has the least length ahead. -/
theorem lt_positions
    {pattern : Pattern}
    (before : List Char)
    {after : List Char}
    (enough : pattern.root.width.least ≤ after.length) :
    before.length < pattern.positions (before ++ after).length := by
  simp only [positions, List.length_append]
  split
  · omega
  · split <;> omega

/-- A text without match. -/
theorem search?_eq_none
    {pattern : Pattern}
    {text : List Char}
    (unmatched :
      ∀ before after stop,
        text = before ++ after →
        ¬ pattern.MatchesBetween before after stop) :
    pattern.search? text = none :=
  searchFrom?_eq_none unmatched _ [] text rfl

/-- The first match in a text. -/
theorem search?_eq_some
    {pattern : Pattern}
    {before after : List Char}
    {stop : Nat}
    (enough : pattern.root.width.least ≤ after.length)
    (found : pattern.MatchesBetween before after stop)
    (first :
      ∀ earlier later stop,
        before ++ after = earlier ++ later →
        earlier.length < before.length →
        ¬ pattern.MatchesBetween earlier later stop) :
    pattern.search? (before ++ after) = some ⟨before.length, stop⟩ := by
  have reached := lt_positions before enough
  exact
    searchFrom?_eq_some rfl found first _ [] (before ++ after)
      rfl (Nat.zero_le _) (by simpa using reached)

/-- Among the matches of a text there is a first one. -/
private theorem exists_first
    {pattern : Pattern}
    {text before after : List Char}
    {stop : Nat}
    (shape : text = before ++ after)
    (found : pattern.MatchesBetween before after stop) :
    ∃ before after stop,
      text = before ++ after ∧
        pattern.MatchesBetween before after stop ∧
        ∀ earlier later stop,
          text = earlier ++ later →
          earlier.length < before.length →
          ¬ pattern.MatchesBetween earlier later stop := by
  induction length : before.length using Nat.strongRecOn
      generalizing before after stop with
  | ind size inductionHypothesis =>
      by_cases first :
          ∀ earlier later stop,
            text = earlier ++ later →
            earlier.length < before.length →
            ¬ pattern.MatchesBetween earlier later stop
      · exact ⟨before, after, stop, shape, found, first⟩
      · push Not at first
        obtain ⟨earlier, later, stop', split, shorter, matched⟩ := first
        exact
          inductionHypothesis earlier.length (by omega)
            split matched rfl

/-- A search answers with a match, or nothing in the text matches. -/
private theorem search?_cases
    {pattern : Pattern}
    (widthSound : pattern.WidthSound)
    (text : List Char) :
    (pattern.search? text = none ∧
      ∀ before after stop, text = before ++ after →
        ¬ pattern.MatchesBetween before after stop) ∨
      ∃ before after stop,
        text = before ++ after ∧
          pattern.search? text = some ⟨before.length, stop⟩ ∧
          pattern.MatchesBetween before after stop ∧
          ∀ earlier later stop,
            text = earlier ++ later →
            earlier.length < before.length →
            ¬ pattern.MatchesBetween earlier later stop := by
  by_cases unmatched :
      ∀ before after stop, text = before ++ after →
        ¬ pattern.MatchesBetween before after stop
  · exact Or.inl ⟨search?_eq_none unmatched, unmatched⟩
  · push Not at unmatched
    obtain ⟨_, _, _, shape, found⟩ := unmatched
    obtain ⟨before, after, stop, rfl, found, first⟩ := exists_first shape found
    exact
      Or.inr ⟨before, after, stop, rfl,
        search?_eq_some (widthSound before after stop found) found first, found, first⟩

/-- A search answers with nothing exactly if nothing in the text matches. -/
theorem search?_eq_none_iff
    {pattern : Pattern}
    (widthSound : pattern.WidthSound)
    {text : List Char} :
    pattern.search? text = none ↔
      ∀ before after stop, text = before ++ after → ¬ pattern.MatchesBetween before after stop := by
  rcases search?_cases widthSound text with ⟨none, unmatched⟩ |
      ⟨before, after, stop, shape, answer, matched, _⟩
  · exact iff_of_true none unmatched
  · refine iff_of_false (by simp [answer]) fun unmatched => ?_
    exact unmatched before after stop shape matched

/-- A search answers with the first match. -/
theorem exists_of_search?_eq_some
    {pattern : Pattern}
    (widthSound : pattern.WidthSound)
    {text : List Char}
    {found : Match}
    (searched : pattern.search? text = some found) :
    ∃ before after,
      text = before ++ after ∧
        found.start = before.length ∧
        pattern.MatchesBetween before after found.stop ∧
        ∀ earlier later stop,
          text = earlier ++ later →
          earlier.length < before.length →
          ¬ pattern.MatchesBetween earlier later stop := by
  rcases search?_cases widthSound text with ⟨none, _⟩ |
      ⟨before, after, stop, shape, answer, matched, isFirst⟩
  · rw [none] at searched
    cases searched
  · rw [answer, Option.some.injEq] at searched
    subst searched
    exact ⟨before, after, shape, rfl, matched, isFirst⟩

/-- Patterns that match alike at every position are found at the same places. -/
theorem search?_congr
    {first second : Pattern}
    (firstSound : first.WidthSound)
    (secondSound : second.WidthSound)
    (same : first.matchAt? = second.matchAt?)
    (text : List Char) :
    first.search? text = second.search? text := by
  have sameMatches :
      ∀ before after stop,
        first.MatchesBetween before after stop ↔ second.MatchesBetween before after stop := by
    intro before after stop
    rw [MatchesBetween, MatchesBetween, same]
  rcases search?_cases secondSound text with ⟨none, unmatched⟩ |
      ⟨before, after, stop, rfl, answer, matched, isFirst⟩
  · rw [none]
    apply search?_eq_none
    intro before after stop shape matched
    exact unmatched before after stop shape ((sameMatches before after stop).mp matched)
  · have firstMatched := (sameMatches before after stop).mpr matched
    rw [answer]
    apply search?_eq_some (firstSound before after stop firstMatched) firstMatched
    intro earlier later otherStop shape shorter otherMatched
    exact
      isFirst earlier later otherStop shape shorter
        ((sameMatches earlier later otherStop).mp otherMatched)

/--
A search does not see what stands behind a text, if no match in the text depends on it and no match
starts in it.
-/
theorem search?_append
    {pattern : Pattern}
    (widthSound : pattern.WidthSound)
    {text tail : List Char}
    (same :
      ∀ before after stop,
        text = before ++ after →
        (pattern.MatchesBetween before (after ++ tail) stop ↔
          pattern.MatchesBetween before after stop))
    (tailUnmatched :
      ∀ before after stop,
        tail = before ++ after →
        before ≠ [] →
        ¬ pattern.MatchesBetween (text ++ before) after stop) :
    pattern.search? (text ++ tail) = pattern.search? text := by
  rcases search?_cases widthSound text with ⟨none, unmatched⟩ |
      ⟨before, after, stop, rfl, answer, matched, first⟩
  · rw [none]
    apply search?_eq_none
    intro before after stop shape matched
    rcases List.append_eq_append_iff.mp shape with ⟨gap, rfl, tailShape⟩ | ⟨gap, rfl, rfl⟩
    -- A match that starts at the seam starts at the end of the text, so it is one of the text.
    · by_cases atSeam : gap = []
      · subst gap
        rw [List.nil_append] at tailShape
        subst after
        rw [List.append_nil] at matched
        exact unmatched text [] stop (by simp) ((same text [] stop (by simp)).mp matched)
      · exact tailUnmatched gap after stop tailShape atSeam matched
    · exact unmatched before gap stop rfl ((same before gap stop rfl).mp matched)
  · have later := (same before after stop rfl).mpr matched
    rw [answer, List.append_assoc]
    apply search?_eq_some (widthSound _ _ _ later) later
    intro earlier rest otherStop shape shorter otherMatched
    rw [← List.append_assoc] at shape
    rcases List.append_eq_append_iff.mp shape with ⟨gap, rfl, _⟩ | ⟨gap, textShape, rfl⟩
    · simp only [List.length_append] at shorter
      omega
    · exact
        first earlier gap otherStop textShape shorter
          ((same earlier gap otherStop textShape).mp otherMatched)

/-- A pattern occurs in a text exactly if it matches at some position. -/
theorem occursIn_iff
    {pattern : Pattern}
    {text : List Char}
    (widthSound : pattern.WidthSound) :
    pattern.occursIn text = true ↔
      ∃ before after stop,
        text = before ++ after ∧
          pattern.MatchesBetween before after stop := by
  rcases search?_cases widthSound text with ⟨none, unmatched⟩ |
      ⟨before, after, stop, shape, answer, matched, _⟩
  · rw [occursIn, none]
    constructor
    · intro occurs
      cases occurs
    · rintro ⟨before, after, stop, shape, matched⟩
      exact (unmatched before after stop shape matched).elim
  · rw [occursIn, answer]
    exact ⟨fun _ => ⟨before, after, stop, shape, matched⟩, fun _ => rfl⟩

/-- A plain word matches where it is ahead. -/
theorem literal_matchesBetween_iff
    {word before after : List Char}
    {stop : Nat} :
    (literal word).MatchesBetween before after stop ↔
      word <+: after ∧ stop = before.length + word.length := by
  obtain ⟨state, cursor, matchesIff⟩ := exists_start (literal word) before after
  rw [matchesIff, literal]
  by_cases ahead : word <+: after
  · obtain ⟨rest, rfl⟩ := ahead
    rw [Node.run_ofText none state settle (by rw [cursor])]
    simp [settle, Attempt.state?, State.beginHere, State.beginAt, State.moveTo,
      cursor, eq_comm]
  · rw [Node.run_ofText_of_not_prefix none state settle (by rwa [cursor])]
    simp [Attempt.state?, ahead]

/-- A plain word occurs in a text exactly if it is a part of it. -/
theorem literal_occursIn_iff
    {word text : List Char} :
    (literal word).occursIn text = true ↔ word <:+: text := by
  have widthSound : (literal word).WidthSound := by
    intro before after stop found
    have ahead := (literal_matchesBetween_iff.mp found).1
    exact (Node.least_width_ofText_le word).trans ahead.length_le
  rw [occursIn_iff widthSound]
  constructor
  · rintro ⟨before, after, stop, rfl, found⟩
    obtain ⟨rest, rfl⟩ := (literal_matchesBetween_iff.mp found).1
    exact List.infix_append' before word rest
  · rintro ⟨before, rest, rfl⟩
    refine ⟨before, word ++ rest, before.length + word.length, by simp, ?_⟩
    exact literal_matchesBetween_iff.mpr ⟨List.prefix_append word rest, rfl⟩

end Pattern

end BlockSync.Regex
