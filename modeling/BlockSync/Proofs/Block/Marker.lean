import BlockSync.Block.Marker
import BlockSync.Proofs.Block.Fingerprint

namespace BlockSync

/-!
# Recognising markers

Every marker starts with one keyword.  A line that lacks it is no marker, and a rendered marker
whose comment lacks it has the keyword in one place only, so it is recognised for its own tag and
for no other.
-/

namespace Marker

/-- The word that every marker starts with. -/
def keyword : List Char := "@generated".toList

/-- Whether a text lacks the word that every marker starts with. -/
def Unmarked (text : List Char) : Prop :=
  ¬ keyword <:+: text

theorem beginPhrase_eq : beginPhrase = keyword ++ ' ' :: "begin ".toList :=
  rfl

theorem endPhrase_eq : endPhrase = keyword ++ ' ' :: "end ".toList :=
  rfl

theorem keyword_ne_nil : keyword ≠ [] := by
  decide

/-- A character that the keyword lacks splits a text into parts that may hold it. -/
theorem unmarked_beside_separator_iff
    {separator : Char}
    (absent : separator ∉ keyword)
    {left right : List Char} :
    Unmarked (left ++ separator :: right) ↔ Unmarked left ∧ Unmarked right := by
  rw [Unmarked, Text.infix_beside_separator_iff keyword_ne_nil absent, not_or]
  exact Iff.rfl

/-- A text without the first character of the keyword lacks the keyword. -/
theorem unmarked_of_notMem
    {text : List Char}
    (absent : '@' ∉ text) :
    Unmarked text := by
  intro occurs
  exact absent (occurs.subset (by decide))

/-- Every part of a text without the keyword lacks it. -/
theorem Unmarked.of_infix
    {part text : List Char}
    (unmarked : Unmarked text)
    (inText : part <:+: text) :
    Unmarked part :=
  fun occurs => unmarked (occurs.trans inText)

/-- A begin marker holds its phrase, the tag, and a space and a hyphen behind it. -/
theorem isBegin_iff
    {tag : Tag}
    {line : Text.Line} :
    isBegin tag line = true ↔
      beginPhrase ++ tag.chars ++ [' ', '-'] <:+: line :=
  Regex.Pattern.literal_occursIn_iff

/-- The last part of an end marker matches where the word in front of it ends. -/
private theorem run_wordEnd_isSome_iff
    (next? : Option Nat)
    (state : Regex.State) :
    (Regex.wordEnd.run next? state Regex.settle).state?.isSome = true ↔
      Text.EndsWord state.cursor.ahead := by
  obtain ⟨⟨behind, ahead, offset⟩, left, starts, ends⟩ := state
  cases ahead with
  | nil =>
      simp [Regex.Node.ofAlternatives, Regex.Node.run, Regex.Node.firstTest?,
        Regex.Cursor.pass?, Regex.Place.holds, Regex.settle,
        Regex.State.beginHere, Regex.State.beginAt,
        Regex.Attempt.orElse, Regex.Attempt.state?]
  | cons c rest =>
      have accepted :
          (Regex.CharTest.set .exact false
              [.category ⟨.blank, false, false⟩]).accepts c = Text.isBlank c := by
        simp [Regex.CharTest.accepts, Regex.SetItem.accepts,
          Regex.CategoryTest.accepts, Regex.Casing.fold, Char.ofNat_toNat]
      cases blank : Text.isBlank c with
      | true =>
          simp [Regex.Node.ofAlternatives, Regex.Node.run,
            Regex.Node.firstTest?, Regex.Cursor.pass?, accepted, blank,
            Regex.settle, Regex.State.beginHere, Regex.State.beginAt,
            Regex.State.moveTo, Regex.Attempt.orElse, Regex.Attempt.state?]
      | false =>
          have notFeed : c ≠ '\n' := by
            rintro rfl
            exact absurd blank (by decide)
          simp [Regex.Node.ofAlternatives, Regex.Node.run,
            Regex.Node.firstTest?, Regex.Cursor.pass?, accepted, blank,
            Regex.Place.holds, notFeed, Regex.Attempt.orElse,
            Regex.Attempt.state?, Regex.State.beginHere, Regex.State.beginAt]

/-- An end marker matches where its phrase and the tag are ahead and the word ends. -/
private theorem exists_end_matchesBetween_iff
    {tag : Tag}
    {before after : List Char} :
    (∃ stop, (endPattern tag).MatchesBetween before after stop) ↔
      ∃ rest, after = endPhrase ++ tag.chars ++ rest ∧ Text.EndsWord rest := by
  obtain ⟨state, cursor, matchesIff⟩ :=
    Regex.Pattern.exists_start (endPattern tag) before after
  simp only [matchesIff]
  simp only [endPattern, Regex.Node.run]
  by_cases ahead : endPhrase ++ tag.chars <+: after
  · obtain ⟨rest, rfl⟩ := ahead
    rw [Regex.Node.run_ofText _ state _ (by rw [cursor])]
    rw [← Option.isSome_iff_exists, Option.isSome_map,
      run_wordEnd_isSome_iff]
    constructor
    · intro ends
      exact ⟨rest, rfl, ends⟩
    · rintro ⟨other, same, ends⟩
      rw [List.append_cancel_left same]
      exact ends
  · rw [Regex.Node.run_ofText_of_not_prefix _ state _ (by rwa [cursor])]
    constructor
    · rintro ⟨stop, matched⟩
      cases matched
    · rintro ⟨rest, rfl, _⟩
      exact (ahead (List.prefix_append _ rest)).elim

/-- An end marker asks for no more characters than its phrase and the tag have. -/
private theorem least_width_endPattern_le (tag : Tag) :
    (endPattern tag).root.width.least ≤ (endPhrase ++ tag.chars).length := by
  have phrase := Regex.Node.least_width_ofText_le (endPhrase ++ tag.chars)
  simp only [endPattern, Regex.Node.width, Regex.Width.capped,
    Regex.Node.ofAlternatives, List.foldr_cons, List.foldr_nil] at phrase ⊢
  omega

/-- An end marker holds its phrase and the tag, with nothing or a blank character behind them. -/
theorem isEnd_iff
    {tag : Tag}
    {line : Text.Line} :
    isEnd tag line = true ↔
      ∃ before after,
        line = before ++ (endPhrase ++ tag.chars ++ after) ∧
          Text.EndsWord after := by
  rw [isEnd, Regex.Pattern.occursIn_iff]
  · constructor
    · rintro ⟨before, after, stop, rfl, found⟩
      obtain ⟨rest, rfl, ends⟩ := exists_end_matchesBetween_iff.mp ⟨stop, found⟩
      exact ⟨before, rest, rfl, ends⟩
    · rintro ⟨before, rest, rfl, ends⟩
      obtain ⟨stop, found⟩ := exists_end_matchesBetween_iff.mpr ⟨rest, rfl, ends⟩
      exact ⟨before, _, stop, rfl, found⟩
  · intro before after stop found
    obtain ⟨rest, rfl, _⟩ := exists_end_matchesBetween_iff.mp ⟨stop, found⟩
    rw [List.length_append]
    exact (least_width_endPattern_le tag).trans (Nat.le_add_right _ _)

/-- A line without the keyword is no begin marker. -/
theorem isBegin_eq_false
    {line : Text.Line}
    (unmarked : Unmarked line)
    (tag : Tag) :
    isBegin tag line = false := by
  rw [← Bool.not_eq_true, isBegin_iff]
  intro occurs
  apply unmarked
  refine List.IsInfix.trans ⟨[], ' ' :: "begin ".toList ++ tag.chars ++ [' ', '-'], ?_⟩ occurs
  simp [beginPhrase_eq]

/-- A line without the keyword is no end marker. -/
theorem isEnd_eq_false
    {line : Text.Line}
    (unmarked : Unmarked line)
    (tag : Tag) :
    isEnd tag line = false := by
  rw [← Bool.not_eq_true, isEnd_iff]
  rintro ⟨before, after, rfl, _⟩
  apply unmarked
  exact ⟨before, ' ' :: "end ".toList ++ tag.chars ++ after, by simp [endPhrase_eq]⟩

/-- A blank character does not stand in a tag. -/
theorem notMem_chars_of_isBlank
    {c : Char}
    (blank : Text.isBlank c = true)
    (tag : Tag) :
    c ∉ tag.chars := by
  intro member
  rw [tag.isTagName.2 c member] at blank
  cases blank

/-- A carriage return behind a line neither makes nor spoils a begin marker. -/
@[simp] theorem isBegin_append_return
    (tag : Tag)
    (line : Text.Line) :
    isBegin tag (line ++ ['\r']) = isBegin tag line := by
  have absent : '\r' ∉ beginPhrase ++ tag.chars ++ [' ', '-'] := by
    rw [List.mem_append, List.mem_append, not_or, not_or]
    exact ⟨⟨by decide, notMem_chars_of_isBlank (by decide) tag⟩, by decide⟩
  rw [Bool.eq_iff_iff, isBegin_iff, isBegin_iff,
    Text.infix_beside_separator_iff (by simp) absent]
  simp

/-- A carriage return behind a line neither makes nor spoils an end marker. -/
@[simp] theorem isEnd_append_return
    (tag : Tag)
    (line : Text.Line) :
    isEnd tag (line ++ ['\r']) = isEnd tag line := by
  have absent : '\r' ∉ endPhrase ++ tag.chars := by
    rw [List.mem_append, not_or]
    exact ⟨by decide, notMem_chars_of_isBlank (by decide) tag⟩
  have nonempty : endPhrase ++ tag.chars ≠ [] := by
    simp [endPhrase_eq]
  rw [Bool.eq_iff_iff, isEnd_iff, isEnd_iff]
  constructor
  · rintro ⟨before, after, shape, ends⟩
    rcases Text.occurrence_beside_separator nonempty absent shape.symm with
        ⟨middle, lineShape, rfl⟩ | ⟨middle, _, empty⟩
    · refine ⟨before, middle, lineShape, ?_⟩
      cases middle with
      | nil =>
          exact Text.endsWord_nil
      | cons c rest =>
          exact ends
    · simp [endPhrase_eq] at empty
  · rintro ⟨before, after, rfl, ends⟩
    refine ⟨before, after ++ ['\r'], by simp, ?_⟩
    cases after with
    | nil =>
        exact (Text.endsWord_cons _ _).mpr (by decide)
    | cons c rest =>
        exact ends

end Marker

end BlockSync
