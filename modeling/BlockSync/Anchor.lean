import BlockSync.Regex.Parser
import BlockSync.Text.Lines

namespace BlockSync

/-!
# Anchors

An anchor names the one line of a file that generated lines are placed against. It must match
exactly one line: no match and several matches are both failures, and no match is ever preferred
over another. A carriage return at the end of a line is left out while matching.
-/

/-- The side of the anchor line on which lines are placed. -/
inductive Placement where
  | before
  | after
  deriving Repr, DecidableEq

/-- The word for a placement. -/
def Placement.text : Placement → String
  | .before => "before"
  | .after => "after"

/-- The placement that a word stands for. -/
def Placement.ofText? : String → Option Placement
  | "before" => some .before
  | "after" => some .after
  | _ => none

/-- A pattern that must match exactly one line, with the name used in messages. -/
structure Anchor where
  pattern : Regex.Pattern
  placement : Placement
  description : String
  deriving Repr, DecidableEq

/-- Why an anchor names no line of a text. -/
inductive AnchorError where
  | notFound (description contents : String)
  | ambiguous (description contents : String) (lines : List Nat)
  deriving Repr, DecidableEq

/-- The message of an anchor failure; lines are counted from one. -/
def AnchorError.message : AnchorError → String
  | .notFound description contents =>
      "Failed to match \"" ++ description ++ "\" in contents:\n" ++ contents
  | .ambiguous description contents lines =>
      "Ambiguous match for \"" ++ description ++ "\" on lines " ++
        ", ".intercalate (lines.map fun line => toString (line + 1)) ++ " in contents:\n" ++
        contents

/-- The place of the one match: its line, and its ends as offsets in the whole text. -/
structure Span where
  line : Nat
  start : Nat
  stop : Nat
  excerpt : Text.Line
  deriving Repr, DecidableEq

namespace Anchor

/-- The anchor at the one line that holds a text. -/
def literal (marker : String) (placement : Placement) (description : String) : Anchor :=
  ⟨.literal marker.toList, placement, if description.isEmpty then marker else description⟩

/-- The anchor at the one line that matches a regular expression. -/
def regex
    (source : String)
    (placement : Placement)
    (description : String) :
    Except Regex.Error Anchor := do
  let pattern ← Regex.Pattern.parse source
  return ⟨pattern, placement, if description.isEmpty then source else description⟩

/-- The match of an anchor in a line. -/
def match? (anchor : Anchor) (line : Text.Line) : Option Regex.Match :=
  anchor.pattern.search? (Text.withoutReturn line)

/-- Whether an anchor matches a line. -/
def matchesLine (anchor : Anchor) (line : Text.Line) : Bool :=
  (anchor.match? line).isSome

/--
The matches in lines that start at a given index and offset; the line feed after each line counts
as one character.
-/
def spansFrom (anchor : Anchor) : Nat → Nat → List Text.Line → List Span
  | _, _, [] => []
  | index, offset, line :: rest =>
      let others := anchor.spansFrom (index + 1) (offset + line.length + 1) rest
      match anchor.match? line with
      | none => others
      | some found => ⟨index, offset + found.start, offset + found.stop, line⟩ :: others

/-- The matches of an anchor, one for each matching line. -/
def spans (anchor : Anchor) (text : String) : List Span :=
  anchor.spansFrom 0 0 (Text.lines text)

/-- The one match of an anchor in a text. -/
def locate (anchor : Anchor) (text : String) : Except AnchorError Span :=
  match anchor.spans text with
  | [] => .error (.notFound anchor.description text)
  | [span] => .ok span
  | spans => .error (.ambiguous anchor.description text (spans.map (·.line)))

/-- The index of the line in front of which lines are placed. -/
def insertionIndex (anchor : Anchor) (text : String) : Except AnchorError Nat := do
  let span ← anchor.locate text
  return match anchor.placement with
    | .before => span.line
    | .after => span.line + 1

end Anchor

end BlockSync
