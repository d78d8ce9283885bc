import BlockSync.Block.Basic
import BlockSync.Proofs.Block.Marker

namespace BlockSync

/-!
# Rendered markers

The markers of a block are recognised for the tag they were rendered with and for no other, and
neither is taken for the other kind, however one tag may start with another one.
-/

/-- A comment style that does not write the keyword of markers. -/
structure CommentStyle.Unmarked (style : CommentStyle) : Prop where
  opener :
    Marker.Unmarked style.opener.toList
  closer :
    Marker.Unmarked style.closer.toList

/-- A comment style that neither writes the keyword of markers nor ends the line. -/
structure CommentStyle.Clean (style : CommentStyle) : Prop where
  openerUnmarked :
    Marker.Unmarked style.opener.toList
  closerUnmarked :
    Marker.Unmarked style.closer.toList
  openerFedless :
    '\n' ∉ style.opener.toList
  closerFedless :
    '\n' ∉ style.closer.toList

namespace CommentStyle

/-- The comment style that is used by default is clean. -/
theorem clean_default : CommentStyle.default.Clean where
  openerUnmarked :=
    Marker.unmarked_of_notMem (by decide)
  closerUnmarked :=
    Marker.unmarked_of_notMem (by decide)
  openerFedless := by
    decide
  closerFedless := by
    decide

/-- What a comment puts in front of its content. -/
def lead (style : CommentStyle) : List Char :=
  if style.opener.isEmpty then [] else style.opener.toList ++ [' ']

/-- What a comment puts behind its content. -/
def trail (style : CommentStyle) : List Char :=
  if style.closer.isEmpty then [] else ' ' :: style.closer.toList

/-- A comment is its content between two fixed texts. -/
theorem wrap_eq
    (style : CommentStyle)
    (content : List Char) :
    style.wrap content = style.lead ++ (content ++ style.trail) := by
  simp only [wrap, lead, trail]
  split <;> split <;> simp

/-- Content ends a word where a comment goes on behind it. -/
theorem endsWord_trail (style : CommentStyle) : Text.EndsWord style.trail := by
  simp only [trail]
  split
  · exact Text.endsWord_nil
  · exact (Text.endsWord_cons _ _).mpr (by decide)

/-- A comment style that does not write a character, unless in the content of a comment. -/
def Lacks (style : CommentStyle) (c : Char) : Prop :=
  c ∉ style.opener.toList ∧ c ∉ style.closer.toList

/-- Whether a comment style writes a character can be computed. -/
instance (style : CommentStyle) (c : Char) : Decidable (style.Lacks c) :=
  inferInstanceAs (Decidable (_ ∧ _))

/-- A character other than a space is in a comment only if the style or the content has it. -/
theorem notMem_wrap
    {style : CommentStyle}
    {c : Char}
    {content : List Char}
    (lacks : style.Lacks c)
    (notSpace : c ≠ ' ')
    (absent : c ∉ content) :
    c ∉ style.wrap content := by
  have leadLacks : c ∉ style.lead := by
    simp only [lead]
    split
    · simp
    · simp [lacks.1, notSpace]
  have trailLacks : c ∉ style.trail := by
    simp only [trail]
    split
    · simp
    · simp [lacks.2, notSpace]
  rw [wrap_eq]
  simp [leadLacks, absent, trailLacks]

variable {style : CommentStyle}

/-- A clean comment style does not write the keyword. -/
theorem Clean.unmarked (clean : style.Clean) : style.Unmarked :=
  ⟨clean.openerUnmarked, clean.closerUnmarked⟩

/-- A clean comment ends no line. -/
theorem Clean.lacksFeed (clean : style.Clean) : style.Lacks '\n' :=
  ⟨clean.openerFedless, clean.closerFedless⟩

namespace Unmarked

/-- A comment without the keyword does not add it to its content. -/
theorem unmarked_append_trail
    (styleUnmarked : style.Unmarked)
    {content : List Char}
    (unmarked : Marker.Unmarked content) :
    Marker.Unmarked (content ++ style.trail) := by
  simp only [trail]
  split
  · rwa [List.append_nil]
  · rw [Marker.unmarked_beside_separator_iff (by decide)]
    exact ⟨unmarked, styleUnmarked.closer⟩

/-- In a comment that adds no keyword, it stands where its content starts, and nowhere else. -/
theorem keyword_occurrence
    (styleUnmarked : style.Unmarked)
    {body earlier later : List Char}
    (unmarked : Marker.Unmarked body)
    (occurrence :
      style.wrap (Marker.keyword ++ ' ' :: body) =
        earlier ++ (Marker.keyword ++ later)) :
    later = ' ' :: (body ++ style.trail) := by
  have keywordHasNoSpace : ' ' ∉ Marker.keyword := by
    decide
  have unmarkedRest := styleUnmarked.unmarked_append_trail unmarked
  have inContent :
      ∀ {earlier}, earlier ++ (Marker.keyword ++ later) =
          Marker.keyword ++ ' ' :: (body ++ style.trail) →
        later = ' ' :: (body ++ style.trail) :=
    fun shape =>
      (Text.occurrence_before_separator Marker.keyword_ne_nil
        keywordHasNoSpace unmarkedRest shape).2
  rw [wrap_eq, List.append_assoc, List.cons_append] at occurrence
  simp only [lead] at occurrence
  split at occurrence
  · exact inContent occurrence.symm
  · rw [List.append_assoc, List.singleton_append] at occurrence
    rcases Text.occurrence_beside_separator Marker.keyword_ne_nil
        keywordHasNoSpace occurrence.symm with
        ⟨middle, openerShape, _⟩ | ⟨middle, _, contentShape⟩
    · exfalso
      apply styleUnmarked.opener
      exact ⟨earlier, middle, by rw [openerShape, List.append_assoc]⟩
    · exact inContent contentShape.symm

end Unmarked

end CommentStyle

/-- Tags are equal if they have the same characters. -/
theorem Tag.eq_of_chars_eq
    {first second : Tag}
    (same : first.chars = second.chars) :
    first = second := by
  obtain ⟨firstName, _⟩ := first
  obtain ⟨secondName, _⟩ := second
  have sameName : firstName = secondName := String.toList_inj.mp same
  subst secondName
  rfl

namespace Marker

/-- What a begin marker says behind the keyword. -/
def beginBody (tag : Tag) (payload : String) : List Char :=
  "begin".toList ++ ' ' ::
    (tag.chars ++ ' ' ::
      ("- tagmark (DO NOT MODIFY)".toList ++ ' ' ::
        Fingerprint.ofPayload payload))

/-- What an end marker says behind the keyword. -/
def endBody (tag : Tag) : List Char :=
  "end".toList ++ ' ' :: tag.chars

/-- A begin marker is a comment that starts with the keyword. -/
theorem renderBegin_eq
    (tag : Tag)
    (payload : String)
    (style : CommentStyle) :
    renderBegin tag.name payload style =
      style.wrap (keyword ++ ' ' :: beginBody tag payload) := by
  have notice_eq :
      [' ', '-', ' '] ++ notice = ' ' :: "- tagmark (DO NOT MODIFY)".toList := by
    decide
  have phrase_eq : beginPhrase = keyword ++ ' ' :: ("begin".toList ++ [' ']) :=
    rfl
  rw [renderBegin, List.append_assoc _ [' ', '-', ' '], notice_eq, phrase_eq,
    beginBody, Tag.chars]
  simp only [List.append_assoc, List.cons_append, List.nil_append]

/-- An end marker is a comment that starts with the keyword. -/
theorem renderEnd_eq
    (tag : Tag)
    (style : CommentStyle) :
    renderEnd tag.name style =
      style.wrap (keyword ++ ' ' :: endBody tag) := by
  have phrase_eq : endPhrase = keyword ++ ' ' :: ("end".toList ++ [' ']) :=
    rfl
  rw [renderEnd, phrase_eq, endBody, Tag.chars]
  simp only [List.append_assoc, List.cons_append, List.nil_append]

variable {tag : Tag} {style : CommentStyle}

/-- The keyword is not repeated in a begin marker unless the tag repeats it. -/
theorem unmarked_beginBody
    (unmarked : Unmarked tag.chars)
    (payload : String) :
    Unmarked (beginBody tag payload) := by
  have digestUnmarked : '@' ∉ Fingerprint.ofPayload payload :=
    (Fingerprint.isToken_ofPayload payload).notMem (by decide) (by decide)
  simp only [beginBody]
  rw [unmarked_beside_separator_iff (by decide),
    unmarked_beside_separator_iff (by decide),
    unmarked_beside_separator_iff (by decide)]
  exact
    ⟨unmarked_of_notMem (by decide), unmarked, unmarked_of_notMem (by decide),
      unmarked_of_notMem digestUnmarked⟩

/-- The keyword is not repeated in an end marker unless the tag repeats it. -/
theorem unmarked_endBody (unmarked : Unmarked tag.chars) : Unmarked (endBody tag) := by
  rw [endBody, unmarked_beside_separator_iff (by decide)]
  exact ⟨unmarked_of_notMem (by decide), unmarked⟩

/-- A begin marker is recognised for its own tag. -/
theorem isBegin_renderBegin_self
    (tag : Tag)
    (payload : String)
    (style : CommentStyle) :
    isBegin tag (renderBegin tag.name payload style) = true := by
  rw [isBegin_iff, renderBegin_eq, CommentStyle.wrap_eq]
  refine
    ⟨style.lead,
      " tagmark (DO NOT MODIFY)".toList ++ ' ' ::
        Fingerprint.ofPayload payload ++ style.trail, ?_⟩
  rw [beginPhrase_eq, beginBody,
    show "begin ".toList = "begin".toList ++ [' '] from rfl,
    show "- tagmark (DO NOT MODIFY)".toList =
      '-' :: " tagmark (DO NOT MODIFY)".toList from rfl]
  simp only [List.append_assoc, List.cons_append, List.nil_append]

/-- An end marker is recognised for its own tag. -/
theorem isEnd_renderEnd_self
    (tag : Tag)
    (style : CommentStyle) :
    isEnd tag (renderEnd tag.name style) = true := by
  have phrase_eq : endPhrase = keyword ++ ' ' :: ("end".toList ++ [' ']) :=
    rfl
  rw [isEnd_iff, renderEnd_eq]
  refine ⟨style.lead, style.trail, ?_, style.endsWord_trail⟩
  rw [CommentStyle.wrap_eq, phrase_eq, endBody]
  simp only [List.append_assoc, List.cons_append, List.nil_append]

/-- A begin marker is recognised for its own tag only, if nothing else holds the keyword. -/
theorem isBegin_renderBegin_iff_of_unmarked
    (styleUnmarked : style.Unmarked)
    (unmarked : Unmarked tag.chars)
    (payload : String)
    (other : Tag) :
    isBegin other (renderBegin tag.name payload style) = true ↔ other = tag := by
  constructor
  · rw [isBegin_iff, renderBegin_eq]
    rintro ⟨before, after, occurrence⟩
    have shape :
        style.wrap (keyword ++ ' ' :: beginBody tag payload) =
          before ++ (keyword ++
            ' ' :: ("begin ".toList ++ (other.chars ++ ' ' :: '-' :: after))) := by
      rw [← occurrence, beginPhrase_eq]
      simp only [List.append_assoc, List.cons_append, List.nil_append]
    have behindKeyword :=
      styleUnmarked.keyword_occurrence (unmarked_beginBody unmarked payload) shape
    rw [show "begin ".toList = "begin".toList ++ [' '] from rfl, beginBody]
      at behindKeyword
    simp only [List.append_assoc, List.cons_append, List.nil_append,
      List.cons.injEq, true_and, List.append_cancel_left_eq] at behindKeyword
    exact Tag.eq_of_chars_eq
      (Text.word_unique other.isTagName.2 tag.isTagName.2
        ((Text.endsWord_cons _ _).mpr (by decide))
        ((Text.endsWord_cons _ _).mpr (by decide)) behindKeyword).1
  · rintro rfl
    exact isBegin_renderBegin_self other payload style

/-- A begin marker is not taken for an end marker, if nothing else holds the keyword. -/
theorem isEnd_renderBegin_of_unmarked
    (styleUnmarked : style.Unmarked)
    (unmarked : Unmarked tag.chars)
    (payload : String)
    (other : Tag) :
    isEnd other (renderBegin tag.name payload style) = false := by
  rw [← Bool.not_eq_true, isEnd_iff, renderBegin_eq]
  rintro ⟨before, after, occurrence, _⟩
  have shape :
      style.wrap (keyword ++ ' ' :: beginBody tag payload) =
        before ++ (keyword ++
          ' ' :: 'e' :: ("nd ".toList ++ (other.chars ++ after))) := by
    rw [occurrence, endPhrase_eq,
      show "end ".toList = 'e' :: "nd ".toList from rfl]
    simp only [List.append_assoc, List.cons_append]
  have behindKeyword :=
    styleUnmarked.keyword_occurrence (unmarked_beginBody unmarked payload) shape
  rw [beginBody, show "begin".toList = 'b' :: "egin".toList from rfl]
    at behindKeyword
  injection behindKeyword with _ differentKinds
  injection differentKinds with different
  exact absurd different (by decide)

/-- An end marker is not taken for a begin marker, if nothing else holds the keyword. -/
theorem isBegin_renderEnd_of_unmarked
    (styleUnmarked : style.Unmarked)
    (unmarked : Unmarked tag.chars)
    (other : Tag) :
    isBegin other (renderEnd tag.name style) = false := by
  rw [← Bool.not_eq_true, isBegin_iff, renderEnd_eq]
  rintro ⟨before, after, occurrence⟩
  have shape :
      style.wrap (keyword ++ ' ' :: endBody tag) =
        before ++ (keyword ++
          ' ' :: 'b' :: ("egin ".toList ++ (other.chars ++ ' ' :: '-' :: after))) := by
    rw [← occurrence, beginPhrase_eq,
      show "begin ".toList = 'b' :: "egin ".toList from rfl]
    simp only [List.append_assoc, List.cons_append, List.nil_append]
  have behindKeyword := styleUnmarked.keyword_occurrence (unmarked_endBody unmarked) shape
  rw [endBody, show "end".toList = 'e' :: "nd".toList from rfl] at behindKeyword
  injection behindKeyword with _ differentKinds
  injection differentKinds with different
  exact absurd different (by decide)

/--
An end marker is not taken for a begin marker, whatever its tag holds, if the comment does not go on
behind the tag as a begin marker does.
-/
theorem isBegin_renderEnd_of_closer
    (styleUnmarked : style.Unmarked)
    (closerSpares : ¬ "begin".toList <+: style.closer.toList)
    (tag other : Tag) :
    isBegin other (renderEnd tag.name style) = false := by
  rw [← Bool.not_eq_true, isBegin_iff, renderEnd_eq]
  rintro ⟨before, after, occurrence⟩
  obtain ⟨later, shape⟩ :
      ∃ later,
        before ++ (keyword ++ ' ' :: ("begin".toList ++ later)) =
          style.lead ++
            (keyword ++ ' ' :: ("end".toList ++ ' ' :: (tag.chars ++ style.trail))) := by
    have phrase_eq : beginPhrase = keyword ++ ' ' :: ("begin".toList ++ [' ']) :=
      rfl
    refine ⟨' ' :: (other.chars ++ ' ' :: '-' :: after), ?_⟩
    rw [CommentStyle.wrap_eq, endBody, phrase_eq] at occurrence
    simpa only [List.append_assoc, List.cons_append, List.nil_append] using occurrence
  have spaceless : ' ' ∉ keyword := by
    decide
  have inContent :
      ∃ before,
        before ++ (keyword ++ ' ' :: ("begin".toList ++ later)) =
          keyword ++ ' ' :: ("end".toList ++ ' ' :: (tag.chars ++ style.trail)) := by
    simp only [CommentStyle.lead] at shape
    split at shape
    · exact ⟨before, shape⟩
    · rw [List.append_assoc, List.singleton_append] at shape
      obtain ⟨middle, content⟩ :=
        Text.occurrence_behind_separator keyword_ne_nil spaceless styleUnmarked.opener shape
      exact ⟨middle, content.symm⟩
  obtain ⟨earlier, contentShape⟩ := inContent
  rcases Text.separated_occurrence keyword_ne_nil spaceless spaceless contentShape with
      otherKind | ⟨middle, behindKeyword⟩
  · exact absurd (List.cons.inj otherKind).1 (by decide)
  · obtain ⟨rest, behindEnd⟩ :=
      Text.occurrence_behind_separator keyword_ne_nil spaceless (by decide) behindKeyword.symm
    have tagSpaceless : ' ' ∉ tag.chars :=
      notMem_chars_of_isBlank (by decide) tag
    simp only [CommentStyle.trail] at behindEnd
    split at behindEnd
    · rw [List.append_nil] at behindEnd
      exact tagSpaceless (by simp [behindEnd])
    · rcases Text.separated_occurrence keyword_ne_nil spaceless tagSpaceless behindEnd.symm with
          atCloser | ⟨before, inCloser⟩
      · exact closerSpares ⟨later, atCloser.symm⟩
      · exact styleUnmarked.closer ⟨before, _, by rw [inCloser, List.append_assoc]⟩

/-- An end marker is recognised for its own tag only, if nothing else holds the keyword. -/
theorem isEnd_renderEnd_iff_of_unmarked
    (styleUnmarked : style.Unmarked)
    (unmarked : Unmarked tag.chars)
    (other : Tag) :
    isEnd other (renderEnd tag.name style) = true ↔ other = tag := by
  have phrase_eq : endPhrase = keyword ++ ' ' :: ("end".toList ++ [' ']) :=
    rfl
  constructor
  · rw [isEnd_iff, renderEnd_eq]
    rintro ⟨before, after, occurrence, ends⟩
    have shape :
        style.wrap (keyword ++ ' ' :: endBody tag) =
          before ++ (keyword ++
            ' ' :: ("end".toList ++ ' ' :: (other.chars ++ after))) := by
      rw [occurrence, phrase_eq]
      simp only [List.append_assoc, List.cons_append, List.nil_append]
    have behindKeyword := styleUnmarked.keyword_occurrence (unmarked_endBody unmarked) shape
    rw [endBody] at behindKeyword
    simp only [List.append_assoc, List.cons_append,
      List.cons.injEq, true_and, List.append_cancel_left_eq] at behindKeyword
    exact Tag.eq_of_chars_eq
      (Text.word_unique other.isTagName.2 tag.isTagName.2 ends
        style.endsWord_trail behindKeyword).1
  · rintro rfl
    exact isEnd_renderEnd_self other style

/-- A begin marker in a clean comment is recognised for its own tag only. -/
theorem isBegin_renderBegin_iff
    (clean : style.Clean)
    (unmarked : Unmarked tag.chars)
    (payload : String)
    (other : Tag) :
    isBegin other (renderBegin tag.name payload style) = true ↔ other = tag :=
  isBegin_renderBegin_iff_of_unmarked clean.unmarked unmarked payload other

/-- A begin marker in a clean comment is never taken for an end marker. -/
theorem isEnd_renderBegin
    (clean : style.Clean)
    (unmarked : Unmarked tag.chars)
    (payload : String)
    (other : Tag) :
    isEnd other (renderBegin tag.name payload style) = false :=
  isEnd_renderBegin_of_unmarked clean.unmarked unmarked payload other

/-- An end marker in a clean comment is never taken for a begin marker. -/
theorem isBegin_renderEnd
    (clean : style.Clean)
    (unmarked : Unmarked tag.chars)
    (other : Tag) :
    isBegin other (renderEnd tag.name style) = false :=
  isBegin_renderEnd_of_unmarked clean.unmarked unmarked other

/-- An end marker in a clean comment is recognised for its own tag only. -/
theorem isEnd_renderEnd_iff
    (clean : style.Clean)
    (unmarked : Unmarked tag.chars)
    (other : Tag) :
    isEnd other (renderEnd tag.name style) = true ↔ other = tag :=
  isEnd_renderEnd_iff_of_unmarked clean.unmarked unmarked other

/-- What may stand behind a begin marker in its line: nothing, or a carriage return. -/
def IsLineEnd (rest : List Char) : Prop :=
  rest = [] ∨ rest = ['\r']

/--
What is read back from a begin marker: a token that the comment or the tag holds, and the
fingerprint of the payload only without such a token.
-/
theorem find?_renderBegin_eq
    (tag : Tag)
    (payload : String)
    (style : CommentStyle)
    {rest : List Char}
    (lineEnd : IsLineEnd rest) :
    Fingerprint.find? (renderBegin tag.name payload style ++ rest) =
      (Fingerprint.find? style.opener.toList).or
        ((Fingerprint.find? tag.chars).or (some (Fingerprint.ofPayload payload))) := by
  have spaceSplits :
      ∀ left right : List Char,
        Fingerprint.find? (left ++ ' ' :: right) =
          (Fingerprint.find? left).or (Fingerprint.find? right) :=
    Fingerprint.find?_beside_separator (by decide) (by decide) (by decide)
  have short :
      ∀ text : List Char, text.length < 45 → Fingerprint.find? text = none :=
    fun _ isShort =>
      Fingerprint.find?_eq_none_of_not_holdsToken
        (Fingerprint.not_holdsToken_of_length_lt isShort)
  have notWord :
      ∀ c ∈ (style.trail ++ rest).head?, Regex.isWordChar false c = false := by
    simp only [CommentStyle.trail]
    split
    · rcases lineEnd with rfl | rfl
      · simp
      · simp
        decide
    · simp
      decide
  have inContent :
      Fingerprint.find?
          (keyword ++ ' ' :: ("begin".toList ++ ' ' :: (tag.chars ++ ' ' ::
            ("- tagmark (DO NOT MODIFY)".toList ++ ' ' ::
              (Fingerprint.ofPayload payload ++ (style.trail ++ rest)))))) =
        (Fingerprint.find? tag.chars).or (some (Fingerprint.ofPayload payload)) := by
    rw [spaceSplits, spaceSplits, spaceSplits, spaceSplits, short keyword (by decide),
      short "begin".toList (by decide), short "- tagmark (DO NOT MODIFY)".toList (by decide),
      Fingerprint.find?_token_append (Fingerprint.isToken_ofPayload payload) notWord]
    rfl
  have shape :
      renderBegin tag.name payload style ++ rest =
        style.lead ++ (keyword ++ ' ' :: ("begin".toList ++ ' ' :: (tag.chars ++ ' ' ::
          ("- tagmark (DO NOT MODIFY)".toList ++ ' ' ::
            (Fingerprint.ofPayload payload ++ (style.trail ++ rest)))))) := by
    rw [renderBegin_eq, CommentStyle.wrap_eq, beginBody]
    simp only [List.append_assoc, List.cons_append]
  rw [shape]
  simp only [CommentStyle.lead]
  split
  · next noOpener =>
    have empty : style.opener = "" := by
      simpa using noOpener
    rw [empty, List.nil_append, inContent, short "".toList (by decide), Option.none_or]
  · rw [List.append_assoc, List.singleton_append, spaceSplits, inContent]

/-- The fingerprint in a begin marker is read back, if no other token stands in front of it. -/
theorem find?_renderBegin
    (openerTokenless : ¬ Fingerprint.HoldsToken style.opener.toList)
    (tagTokenless : ¬ Fingerprint.HoldsToken tag.chars)
    (payload : String)
    {rest : List Char}
    (lineEnd : IsLineEnd rest) :
    Fingerprint.find? (renderBegin tag.name payload style ++ rest) =
      some (Fingerprint.ofPayload payload) := by
  rw [find?_renderBegin_eq tag payload style lineEnd,
    Fingerprint.find?_eq_none_of_not_holdsToken openerTokenless,
    Fingerprint.find?_eq_none_of_not_holdsToken tagTokenless]
  rfl

end Marker

end BlockSync
