import BlockSync.Text.Blank
import Mathlib.Data.List.Infix

namespace BlockSync.Text

/-!
# Words inside a text

A word that does not hold a separator lies on one side of it.  Markers and fingerprints are built
from such words, so the place where one of them occurs in a rendered line is decided piece by
piece.
-/

/-- An occurrence of a word without separators lies before or behind each separator of the text. -/
theorem occurrence_beside_separator
    {separator : Char}
    {word earlier later left right : List Char}
    (nonempty : word ≠ [])
    (unseparated : separator ∉ word)
    (shape : earlier ++ (word ++ later) = left ++ separator :: right) :
    (∃ middle,
      left = earlier ++ (word ++ middle) ∧
        later = middle ++ separator :: right) ∨
      ∃ middle,
        earlier = left ++ separator :: middle ∧
          right = middle ++ (word ++ later) := by
  rcases List.append_eq_append_iff.mp shape with
      ⟨between, leftShape, wordShape⟩ | ⟨between, earlierShape, rightShape⟩
  · rcases List.append_eq_append_iff.mp wordShape with
        ⟨middle, betweenShape, laterShape⟩ |
          ⟨overlap, wordSplit, separatorShape⟩
    · exact Or.inl ⟨middle, by rw [leftShape, betweenShape], laterShape⟩
    · cases overlap with
      | nil =>
          refine Or.inl ⟨[], ?_, ?_⟩
          · rw [leftShape, wordSplit]
            simp
          · simpa using separatorShape.symm
      | cons head rest =>
          injection separatorShape with headShape
          subst head
          exact (unseparated (by simp [wordSplit])).elim
  · cases between with
    | nil =>
        obtain ⟨head, tail, rfl⟩ := List.exists_cons_of_ne_nil nonempty
        injection rightShape with headShape
        subst head
        exact (unseparated (by simp)).elim
    | cons head middle =>
        injection rightShape with headShape middleShape
        subst head
        exact Or.inr ⟨middle, earlierShape, middleShape⟩

/-- A word without separators occurs in a text exactly if it occurs beside a separator. -/
theorem infix_beside_separator_iff
    {separator : Char}
    {word left right : List Char}
    (nonempty : word ≠ [])
    (unseparated : separator ∉ word) :
    word <:+: left ++ separator :: right ↔
      word <:+: left ∨ word <:+: right := by
  constructor
  · rintro ⟨earlier, later, shape⟩
    rw [List.append_assoc] at shape
    rcases occurrence_beside_separator nonempty unseparated shape with
        ⟨middle, leftShape, _⟩ | ⟨middle, _, rightShape⟩
    · exact Or.inl ⟨earlier, middle, by rw [leftShape, List.append_assoc]⟩
    · exact Or.inr ⟨middle, later, by rw [rightShape, List.append_assoc]⟩
  · rintro (inLeft | inRight)
    · exact inLeft.trans (List.prefix_append _ _).isInfix
    · exact inRight.trans
        ((List.suffix_cons separator right).trans (List.suffix_append _ _)).isInfix

/--
A word that occurs nowhere else stands where it was put: in front of a separator, behind which it
does not occur again.
-/
theorem occurrence_before_separator
    {separator : Char}
    {word earlier later right : List Char}
    (nonempty : word ≠ [])
    (unseparated : separator ∉ word)
    (absent : ¬ word <:+: right)
    (shape : earlier ++ (word ++ later) = word ++ separator :: right) :
    earlier = [] ∧ later = separator :: right := by
  rcases occurrence_beside_separator nonempty unseparated shape with
      ⟨middle, wordShape, laterShape⟩ | ⟨middle, _, rightShape⟩
  · have lengths := congrArg List.length wordShape
    simp only [List.length_append] at lengths
    have earlierEmpty : earlier = [] := List.eq_nil_of_length_eq_zero (by omega)
    have middleEmpty : middle = [] := List.eq_nil_of_length_eq_zero (by omega)
    exact ⟨earlierEmpty, by simpa [middleEmpty] using laterShape⟩
  · exact (absent ⟨middle, later, by rw [rightShape, List.append_assoc]⟩).elim

/-- A word that does not occur in front of a separator occurs behind it. -/
theorem occurrence_behind_separator
    {separator : Char}
    {word earlier later left right : List Char}
    (nonempty : word ≠ [])
    (unseparated : separator ∉ word)
    (absent : ¬ word <:+: left)
    (shape : earlier ++ (word ++ later) = left ++ separator :: right) :
    ∃ middle, right = middle ++ (word ++ later) := by
  rcases occurrence_beside_separator nonempty unseparated shape with
      ⟨middle, leftShape, _⟩ | ⟨middle, _, rightShape⟩
  · exact (absent ⟨earlier, middle, by rw [leftShape, List.append_assoc]⟩).elim
  · exact ⟨middle, rightShape⟩

/--
Where a word with a separator behind it occurs in a text, it ends at the first separator of the
text, or it occurs behind that one.
-/
theorem separated_occurrence
    {separator : Char}
    {word earlier later left right : List Char}
    (nonempty : word ≠ [])
    (unseparated : separator ∉ word)
    (leftUnseparated : separator ∉ left)
    (shape : earlier ++ (word ++ separator :: later) = left ++ separator :: right) :
    right = later ∨ ∃ middle, right = middle ++ (word ++ separator :: later) := by
  rcases occurrence_beside_separator nonempty unseparated shape with
      ⟨middle, rfl, behindWord⟩ | ⟨middle, _, rightShape⟩
  · cases middle with
    | nil =>
        exact Or.inl (List.cons.inj behindWord).2.symm
    | cons c rest =>
        have sameSeparator := (List.cons.inj behindWord).1
        exact (leftUnseparated (by simp [sameSeparator])).elim
  · exact Or.inr ⟨middle, rightShape⟩

/-- Whether a text is at its end or goes on with a blank character. -/
def EndsWord (text : List Char) : Prop :=
  ∀ c ∈ text.head?, isBlank c = true

@[simp] theorem endsWord_nil : EndsWord [] := by
  simp [EndsWord]

@[simp] theorem endsWord_cons
    (c : Char)
    (rest : List Char) :
    EndsWord (c :: rest) ↔ isBlank c = true := by
  simp [EndsWord]

/-- Two words without blank characters that end at the same place of one text are equal. -/
theorem word_unique
    {first second afterFirst afterSecond : List Char}
    (firstWord : ∀ c ∈ first, isBlank c = false)
    (secondWord : ∀ c ∈ second, isBlank c = false)
    (firstEnds : EndsWord afterFirst)
    (secondEnds : EndsWord afterSecond)
    (same : first ++ afterFirst = second ++ afterSecond) :
    first = second ∧ afterFirst = afterSecond := by
  induction first generalizing second with
  | nil =>
      cases second with
      | nil =>
          exact ⟨rfl, same⟩
      | cons c rest =>
          rw [List.nil_append, List.cons_append] at same
          rw [same, endsWord_cons, secondWord c (by simp)] at firstEnds
          cases firstEnds
  | cons c rest inductionHypothesis =>
      cases second with
      | nil =>
          rw [List.nil_append, List.cons_append] at same
          rw [← same, endsWord_cons, firstWord c (by simp)] at secondEnds
          cases secondEnds
      | cons d others =>
          injection same with sameHead sameTail
          subst d
          obtain ⟨sameWord, sameRest⟩ :=
            inductionHypothesis
              (fun x member => firstWord x (List.mem_cons_of_mem c member))
              (fun x member => secondWord x (List.mem_cons_of_mem c member))
              sameTail
          exact ⟨by rw [sameWord], sameRest⟩

end BlockSync.Text
