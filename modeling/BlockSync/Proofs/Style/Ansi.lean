import BlockSync.Style.Ansi
import Mathlib.Data.List.Infix

namespace BlockSync.Style

/-!
# What styles add to a text

A painted text starts with what switches its styles on.  Painting adds nothing to a text but the
sequences that switch styles, so a text on one line stays on one line.
-/

variable {target addition on off text : List Char} {c : Char}

/-- No sequence holds a line feed. -/
theorem feed_notMem_sequence (code : Nat) : '\n' ∉ sequence code := by
  intro member
  rcases List.mem_cons.mp member with isEscape | member
  · revert isEscape
    decide
  rcases List.mem_cons.mp member with isBracket | member
  · revert isBracket
    decide
  rcases List.mem_append.mp member with isDigit | isEnd
  · have digit := Nat.isDigit_of_mem_toDigits (by decide) (by decide) isDigit
    revert digit
    decide
  · revert isEnd
    decide

/-- Writing something after a text brings no other characters. -/
theorem mem_of_mem_appendAfter
    {fuel : Nat}
    (member : c ∈ appendAfter target addition fuel text) :
    c ∈ addition ∨ c ∈ text := by
  induction fuel generalizing text with
  | zero =>
      exact .inr member
  | succ fuel inductionHypothesis =>
      cases text with
      | nil =>
          exact .inr member
      | cons first rest =>
          rw [appendAfter] at member
          split at member
          · next occurs =>
            have occurs : target <+: first :: rest := by
              simpa using occurs
            rcases List.mem_append.mp member with member | isLater
            · rcases List.mem_append.mp member with isTarget | isAddition
              · exact .inr (occurs.subset isTarget)
              · exact .inl isAddition
            · exact
                (inductionHypothesis isLater).imp_right fun inRest => List.mem_of_mem_drop inRest
          · rcases List.mem_cons.mp member with rfl | isLater
            · exact .inr List.mem_cons_self
            · exact (inductionHypothesis isLater).imp_right (List.mem_cons_of_mem first)

/-- The text up to the next reset and the rest are parts of the text. -/
theorem append_of_takeToReset?
    {taken others : List Char}
    (found : takeToReset? text = some (taken, others)) :
    taken ++ others = text := by
  induction text generalizing taken others with
  | nil =>
      cases found
  | cons first rest inductionHypothesis =>
      rw [takeToReset?] at found
      split at found
      · cases found
      · split at found
        · next isReset =>
          have isReset : reset <+: first :: rest := by
            simpa using isReset
          cases found
          exact List.prefix_iff_eq_append.mp isReset
        · obtain ⟨⟨takenLater, othersLater⟩, foundLater, same⟩ := Option.map_eq_some_iff.mp found
          cases same
          rw [List.cons_append, inductionHypothesis foundLater]

/-- Switching off around stretches between resets brings no other characters. -/
theorem mem_of_mem_aroundResets
    {fuel : Nat}
    (member : c ∈ aroundResets on off fuel text) :
    c ∈ on ∨ c ∈ off ∨ c ∈ text := by
  induction fuel generalizing text with
  | zero =>
      exact .inr (.inr member)
  | succ fuel inductionHypothesis =>
      cases text with
      | nil =>
          exact .inr (.inr member)
      | cons first rest =>
          have kept :
              c ∈ first :: aroundResets on off fuel rest →
                c ∈ on ∨ c ∈ off ∨ c ∈ first :: rest := by
            intro member
            rcases List.mem_cons.mp member with rfl | isLater
            · exact .inr (.inr List.mem_cons_self)
            · exact
                (inductionHypothesis isLater).imp_right
                  (Or.imp_right (List.mem_cons_of_mem first))
          rw [aroundResets] at member
          split at member
          · next isReset =>
            have isReset : reset <+: first :: rest := by
              simpa using isReset
            split at member
            · next taken others found =>
              have parts := append_of_takeToReset? found
              have inText : ∀ c ∈ taken ++ others, c ∈ first :: rest :=
                fun c member => List.mem_of_mem_drop (parts ▸ member)
              simp only [List.mem_append] at member
              rcases member with (((isOff | inReset) | isTaken) | isOn) | isLater
              · exact .inr (.inl isOff)
              · exact .inr (.inr (isReset.subset inReset))
              · exact .inr (.inr (inText c (List.mem_append_left others isTaken)))
              · exact .inl isOn
              · exact
                  (inductionHypothesis isLater).imp_right
                    (Or.imp_right fun isOther => inText c (List.mem_append_right taken isOther))
            · exact kept member
          · exact kept member

/-- Without line feeds there is nothing to switch off around. -/
theorem aroundLineEnds_of_notMem
    (on off : List Char)
    (fedless : '\n' ∉ text) :
    aroundLineEnds on off text = text := by
  induction text with
  | nil =>
      rfl
  | cons first rest inductionHypothesis =>
      rw [List.mem_cons, not_or] at fedless
      have later := inductionHypothesis fedless.2
      rw [aroundLineEnds]
      · rw [later]
      · rintro _ rfl rfl
        exact fedless.2 List.mem_cons_self
      · rintro rfl
        exact fedless.1 rfl

/-- What switches styles on or off in front of or behind a text holds no line feed. -/
private theorem feed_notMem_flatMap
    (styles : List Effect)
    (code : Effect → Nat) :
    '\n' ∉ styles.flatMap fun style => sequence (code style) := by
  intro member
  obtain ⟨style, _, inSequence⟩ := List.mem_flatMap.mp member
  exact feed_notMem_sequence _ inSequence

/-- Styles that are switched on again inside a text bring no line feed. -/
private theorem feed_notMem_foldl
    (styles : List Effect)
    (fedless : '\n' ∉ text) :
    '\n' ∉ styles.foldl
      (fun text style => appendAfter (sequence style.off) (sequence style.on) text.length text)
      text := by
  induction styles generalizing text with
  | nil =>
      exact fedless
  | cons style others inductionHypothesis =>
      refine inductionHypothesis fun member => ?_
      rcases mem_of_mem_appendAfter member with isAddition | inText
      · exact feed_notMem_sequence _ isAddition
      · exact fedless inText

/-- A text on one line that is painted stays on one line. -/
theorem feed_notMem_paint
    (colored : Bool)
    (styles : List Effect)
    (fedless : '\n' ∉ text) :
    '\n' ∉ paint colored styles text := by
  rw [paint]
  split
  · exact fedless
  · have switched := feed_notMem_foldl styles fedless
    dsimp only
    generalize styles.foldl _ text = inner at switched ⊢
    have noOn := feed_notMem_flatMap styles Effect.on
    have noOff := feed_notMem_flatMap styles Effect.off
    have fedlessInside :
        '\n' ∉ aroundResets
          (styles.flatMap fun style => sequence style.on)
          (styles.flatMap fun style => sequence style.off) inner.length inner := by
      intro member
      rcases mem_of_mem_aroundResets member with isOn | isOff | isInner
      · exact noOn isOn
      · exact noOff isOff
      · exact switched isInner
    rw [aroundLineEnds_of_notMem _ _ fedlessInside, List.mem_append, List.mem_append, not_or,
      not_or]
    exact ⟨⟨noOn, fedlessInside⟩, noOff⟩

/-- A painted text starts with what switches its styles on. -/
theorem prefix_paint
    (styles : List Effect)
    (nonempty : text ≠ []) :
    (styles.flatMap fun style => sequence style.on) <+: paint true styles text := by
  have isText : text.isEmpty = false := by
    simpa using nonempty
  rw [paint, isText]
  simp only [Bool.not_true, Bool.or_self, Bool.false_eq_true, ↓reduceIte, List.append_assoc]
  exact List.prefix_append _ _

/-- A text looks different in two styles of which neither is switched on by a part of the other. -/
theorem paint_ne_paint
    {first second : Effect}
    (nonempty : text ≠ [])
    (apart : ¬ sequence first.on <+: sequence second.on)
    (otherApart : ¬ sequence second.on <+: sequence first.on) :
    paint true [first] text ≠ paint true [second] text := by
  intro same
  have startsFirst := prefix_paint [first] nonempty
  have startsSecond := prefix_paint [second] nonempty
  rw [List.flatMap_singleton] at startsFirst startsSecond
  rw [same] at startsFirst
  rcases List.prefix_or_prefix_of_prefix startsFirst startsSecond with isPart | isPart
  · exact apart isPart
  · exact otherApart isPart

end BlockSync.Style
