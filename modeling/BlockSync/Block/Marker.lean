import BlockSync.Block.Fingerprint
import BlockSync.Block.Tag

namespace BlockSync

/-!
# Markers

A block is delimited by two comments of the host file. The begin marker carries the tag and the
fingerprint of the payload, the end marker the tag alone. Both are recognised anywhere in a line,
so a block can be found without knowing the comment style it was written with.
-/

/-- How the host file writes a comment: what opens it and what closes it, if anything. -/
structure CommentStyle where
  opener : String
  closer : String
  deriving Repr, DecidableEq

/-- A hash sign opens a comment that ends with its line. -/
def CommentStyle.default : CommentStyle := ⟨"#", ""⟩

/-- A comment with some content. -/
def CommentStyle.wrap (style : CommentStyle) (content : List Char) : Text.Line :=
  let opened :=
    if style.opener.isEmpty then content else style.opener.toList ++ ' ' :: content
  if style.closer.isEmpty then opened else opened ++ ' ' :: style.closer.toList

namespace Marker

/-- The phrase in front of the tag in a begin marker. -/
def beginPhrase : List Char := "@generated begin ".toList

/-- The phrase in front of the tag in an end marker. -/
def endPhrase : List Char := "@generated end ".toList

/-- The notice between the tag and the fingerprint. -/
def notice : List Char := "tagmark (DO NOT MODIFY)".toList

/-- Begin markers: the phrase and the tag, followed by a space and a hyphen. -/
def beginPattern (tag : Tag) : Regex.Pattern :=
  .literal (beginPhrase ++ tag.chars ++ [' ', '-'])

/--
End markers: the phrase and the tag, followed by a blank character or the end of the line, so
that no longer tag is taken for this one.
-/
def endPattern (tag : Tag) : Regex.Pattern :=
  ⟨.seq (.ofText (endPhrase ++ tag.chars))
    (.ofAlternatives
      [.char (.set .exact false [.category ⟨.blank, false, false⟩]), .place .finalLineEnd]),
    0⟩

/-- Whether a line holds a begin marker of a tag. -/
def isBegin (tag : Tag) (line : Text.Line) : Bool := (beginPattern tag).occursIn line

/-- Whether a line holds an end marker of a tag. -/
def isEnd (tag : Tag) (line : Text.Line) : Bool := (endPattern tag).occursIn line

/-- The begin marker of a payload. The name need not be a valid tag. -/
def renderBegin (name : String) (payload : String) (style : CommentStyle) : Text.Line :=
  style.wrap
    (beginPhrase ++ name.toList ++ [' ', '-', ' '] ++ notice ++
      ' ' :: Fingerprint.ofPayload payload)

/-- The end marker of a name. The name need not be a valid tag. -/
def renderEnd (name : String) (style : CommentStyle) : Text.Line :=
  style.wrap (endPhrase ++ name.toList)

end Marker

end BlockSync
