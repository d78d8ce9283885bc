import BlockSync.Block.Marker

namespace BlockSync

/-!
# Blocks

The block of a tag in a file is the first end marker of the tag that has a begin marker above it,
paired with the closest such begin marker. Markers without a partner are passed over, so a block
that was deleted by half counts as absent.
-/

/-- A block found in a file: its first and its last line, and the fingerprint it carries. -/
structure Block where
  first : Nat
  last : Nat
  fingerprint : Option Fingerprint
  deriving Repr, DecidableEq

namespace Block

/-- Whether a block was generated from a payload. -/
def isCurrent (block : Block) (payload : String) : Bool :=
  block.fingerprint == some (Fingerprint.ofPayload payload)

/-- The lines of a block: begin marker, payload, end marker. -/
def render (tag : Tag) (payload : String) (style : CommentStyle) : List Text.Line :=
  Marker.renderBegin tag.name payload style ::
    (Text.lines payload ++ [Marker.renderEnd tag.name style])

/--
The block of a tag among lines that start at a given index, with the closest begin marker seen
above them.
-/
def findFrom (tag : Tag) : Nat → Option (Nat × Text.Line) → List Text.Line → Option Block
  | _, _, [] => none
  | index, begun, line :: rest =>
      if Marker.isBegin tag line then
        findFrom tag (index + 1) (some (index, line)) rest
      else if Marker.isEnd tag line then
        match begun with
        | none => findFrom tag (index + 1) none rest
        | some (first, marker) => some ⟨first, index, Fingerprint.find? marker⟩
      else
        findFrom tag (index + 1) begun rest

/-- The block of a tag in a file. -/
def find? (tag : Tag) (lines : List Text.Line) : Option Block :=
  findFrom tag 0 none lines

/-- The lines of a file without a block. -/
def excise (block : Block) (lines : List Text.Line) : List Text.Line :=
  lines.take block.first ++ lines.drop (block.last + 1)

end Block

end BlockSync
