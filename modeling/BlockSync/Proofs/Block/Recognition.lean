import BlockSync.Proofs.Anchor
import BlockSync.Proofs.Block.Rendered
import BlockSync.Proofs.Regex.Escaped

namespace BlockSync

/-!
# What markers and literal anchors match

The patterns of markers and of literal anchors are written with escaped texts.  Whatever these
texts hold, what the sources describe is a test for a part of a line, so neither a tag nor a marker
has a say beyond the characters that it is made of.
-/

namespace Marker

open Regex

/-- The source of the pattern for begin markers. -/
def beginSource (tag : Tag) : List Char :=
  escaped (beginPhrase ++ tag.chars) ++ " -".toList

/-- The source of the pattern for end markers. -/
def endSource (tag : Tag) : List Char :=
  escaped (endPhrase ++ tag.chars) ++ "(?:\\s|$)".toList

/-- The pattern for begin markers is that of its source. -/
theorem describes_beginPattern (tag : Tag) :
    Pattern.Describes (beginSource tag) (beginPattern tag) := by
  have separator : Spells " -".toList " -".toList :=
    .plain (by decide) (.plain (by decide) .nil)
  exact Pattern.describes_literal ((Spells.of_escaped _).append separator)

/-- The pattern for end markers is that of its source. -/
theorem describes_endPattern (tag : Tag) :
    Pattern.Describes (endSource tag) (endPattern tag) :=
  Pattern.describes_word (Spells.of_escaped _)

/--
Begin and end markers are found where their text is a part of the line, that of an end marker in
front of a blank character or the end of the line, and literal anchors where their text is a part of
the line without its carriage return.  This is what the escaped sources of their patterns describe.
So rendered markers are recognised for their own tag and kind only, if neither the tag nor the
comment writes the keyword.
-/
theorem patterns_exact :
    (∀ (tag : Tag) (line : Text.Line),
        (isBegin tag line = true ↔
          "@generated begin ".toList ++ tag.chars ++ " -".toList <:+: line) ∧
        (isEnd tag line = true ↔
          ∃ before after,
            line = before ++ ("@generated end ".toList ++ tag.chars ++ after) ∧
              Text.EndsWord after)) ∧
      (∀ (marker description : String) (placement : Placement) (line : Text.Line),
        (Anchor.literal marker placement description).matchesLine line = true ↔
          marker.toList <:+: Text.withoutReturn line) ∧
      (∀ tag : Tag,
        Pattern.Describes (beginSource tag) (beginPattern tag) ∧
          Pattern.Describes (endSource tag) (endPattern tag)) ∧
      (∀ (marker description : String) (placement : Placement),
        Pattern.Describes (escaped marker.toList)
          (Anchor.literal marker placement description).pattern) ∧
      ∀ (style : CommentStyle) (payload : String) (tag other : Tag),
        style.Unmarked →
        Unmarked tag.chars →
          (isBegin other (renderBegin tag.name payload style) = true ↔ other = tag) ∧
            (isEnd other (renderEnd tag.name style) = true ↔ other = tag) ∧
            isEnd other (renderBegin tag.name payload style) = false ∧
            isBegin other (renderEnd tag.name style) = false :=
  ⟨fun _ _ => ⟨isBegin_iff, isEnd_iff⟩,
    fun _ _ _ _ => Anchor.matchesLine_literal_iff,
    fun tag => ⟨describes_beginPattern tag, describes_endPattern tag⟩,
    fun _ _ _ => Pattern.describes_literal (Spells.of_escaped _),
    fun _ payload _ other styleUnmarked unmarked =>
      ⟨isBegin_renderBegin_iff_of_unmarked styleUnmarked unmarked payload other,
        isEnd_renderEnd_iff_of_unmarked styleUnmarked unmarked other,
        isEnd_renderBegin_of_unmarked styleUnmarked unmarked payload other,
        isBegin_renderEnd_of_unmarked styleUnmarked unmarked other⟩⟩

/-- A tag with characters that mean something else in a pattern. -/
def starredTag : Tag :=
  ⟨"a.*", by decide⟩

/-- A tag that starts with the other one. -/
def longerTag : Tag :=
  ⟨"a.*-b", by decide⟩

/-- Such a tag has its own markers, and not those of a longer tag. -/
theorem patterns_exact_starred :
    (CommentStyle.default.Unmarked ∧ Unmarked starredTag.chars ∧ Unmarked longerTag.chars) ∧
      isBegin starredTag (renderBegin starredTag.name "p" .default) = true ∧
      isEnd starredTag (renderEnd starredTag.name .default) = true ∧
      isEnd starredTag (renderBegin starredTag.name "p" .default) = false ∧
      ¬ isBegin starredTag (renderBegin longerTag.name "p" .default) = true ∧
      ¬ isEnd starredTag (renderEnd longerTag.name .default) = true := by
  have styleUnmarked : CommentStyle.default.Unmarked :=
    CommentStyle.clean_default.unmarked
  have starredUnmarked : Unmarked starredTag.chars :=
    unmarked_of_notMem (by decide)
  have longerUnmarked : Unmarked longerTag.chars :=
    unmarked_of_notMem (by decide)
  have different : starredTag ≠ longerTag := by
    decide
  obtain ⟨_, _, _, _, rendered⟩ := patterns_exact
  obtain ⟨ownBegin, ownEnd, notEnd, _⟩ :=
    rendered .default "p" starredTag starredTag styleUnmarked starredUnmarked
  obtain ⟨longerBegin, longerEnd, _, _⟩ :=
    rendered .default "p" longerTag starredTag styleUnmarked longerUnmarked
  exact
    ⟨⟨styleUnmarked, starredUnmarked, longerUnmarked⟩, ownBegin.mpr rfl, ownEnd.mpr rfl, notEnd,
      fun found => different (longerBegin.mp found), fun found => different (longerEnd.mp found)⟩

end Marker

end BlockSync
