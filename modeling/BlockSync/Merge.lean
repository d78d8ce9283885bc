import BlockSync.Anchor
import BlockSync.Block.Basic

namespace BlockSync

/-!
# Merging blocks into a text

A block that is absent is placed against its anchor. A block that carries the fingerprint of the
payload is left alone. Any other block is replaced where it stands, and its anchor is not sought
again. Removing a block takes out its lines and nothing else. A payload that cannot be encoded has
no fingerprint, so it is refused whatever the text holds, and only texts of characters are made.
-/

/-- Why a block could not be merged. -/
inductive MergeError where
  | invalidTag (error : InvalidTag)
  | unencodable (error : EncodeError)
  | anchor (error : AnchorError)
  deriving Repr, DecidableEq

/-- The message of a failed merge. -/
def MergeError.message : MergeError → String
  | .invalidTag error => error.message
  | .unencodable error => error.message
  | .anchor error => error.message

/-- The text after a merge: whether a block was written, and whether one was taken out. -/
structure MergeResult where
  contents : String
  merged : Bool
  cleared : Bool
  deriving Repr, DecidableEq

/-- Whether the text differs from what it was. -/
def MergeResult.changed (result : MergeResult) : Bool :=
  result.merged || result.cleared

/-- The result that leaves a text alone. -/
def MergeResult.unchanged (contents : String) : MergeResult :=
  ⟨contents, false, false⟩

namespace Merge

/-- Whether the lines of a text end in a carriage return and a line feed. -/
def usesReturns (lines : List Text.Line) : Bool :=
  lines.dropLast.any fun line => line.getLast? == some '\r'

/--
Gives the lines of a block the carriage returns of the text around them. The last line has one
only if another line follows it, so that taking the block out restores the text.
-/
def withReturns (isLast : Bool) (block : List Text.Line) : List Text.Line :=
  match block.getLast? with
  | none => []
  | some last =>
      block.dropLast.map (· ++ ['\r']) ++ [if isLast then last else last ++ ['\r']]

/-- Places a block in front of the line with a given index. -/
def splice
    (returns : Bool)
    (lines : List Text.Line)
    (index : Nat)
    (block : List Text.Line) :
    List Text.Line :=
  let block := if returns then withReturns (lines.length ≤ index) block else block
  lines.take index ++ block ++ lines.drop index

/-- Merges the block of a valid tag and a payload of characters. -/
def addTagged
    (text : String)
    (tag : Tag)
    (anchor : Anchor)
    (payload : String)
    (style : CommentStyle) :
    Except AnchorError MergeResult :=
  let lines := Text.lines text
  let block := Block.render tag payload style
  let returns := usesReturns lines
  match Block.find? tag lines with
  | none => do
      let index ← anchor.insertionIndex text
      return ⟨Text.ofLines (splice returns lines index block), true, false⟩
  | some existing =>
      if existing.isCurrent payload then
        .ok (.unchanged text)
      else
        .ok ⟨Text.ofLines (splice returns (existing.excise lines) existing.first block),
          true, true⟩

/-- Takes out the block of a valid tag. -/
def removeTagged (text : String) (tag : Tag) : MergeResult :=
  let lines := Text.lines text
  match Block.find? tag lines with
  | none => .unchanged text
  | some existing => ⟨Text.ofLines (existing.excise lines), false, true⟩

/-- Makes sure that a text holds an up-to-date block of a payload. -/
def addOrUpdate
    (text name : String)
    (anchor : Anchor)
    (payload : RawText)
    (style : CommentStyle) :
    Except MergeError MergeResult := do
  let tag ← (Tag.ofName name).mapError .invalidTag
  let payload ← payload.toText.mapError .unencodable
  (addTagged text tag anchor payload style).mapError .anchor

/-- Takes the block with a given tag out of a text. -/
def remove (text name : String) : Except MergeError MergeResult := do
  let tag ← (Tag.ofName name).mapError .invalidTag
  return removeTagged text tag

end Merge

end BlockSync
