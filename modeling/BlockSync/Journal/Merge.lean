import BlockSync.Fragment.Basic
import BlockSync.Journal.Site

namespace BlockSync.Journal

/-!
# Records of merges

What a log tells about one text: which markers were passed over, where the anchor was found, and
what became of the block. Lines are counted from one.
-/

/-- The lines of a block. -/
def rangeText (block : Block) : String :=
  toString (block.first + 1) ++ "-" ++ toString (block.last + 1)

/--
The records of the search for the block of a tag, among lines that start at a given index, with
the line of the closest begin marker seen above them.
-/
def searchFrom (tag : Tag) : Nat → Option Nat → List Text.Line → List LogRecord
  | _, _, [] => []
  | index, begun, line :: rest =>
      if Marker.isBegin tag line then
        let orphans := begun.toList.map fun first => LogRecord.mk .debug orphanBegin
          ("Ignoring orphan begin marker for '" ++ tag.name ++ "' at line " ++
            toString (first + 1))
        orphans ++ searchFrom tag (index + 1) (some index) rest
      else if Marker.isEnd tag line then
        match begun with
        | none =>
            ⟨.debug, orphanEnd, "Ignoring orphan end marker for '" ++ tag.name ++ "' at line " ++
              toString (index + 1)⟩ :: searchFrom tag (index + 1) none rest
        | some first =>
            [⟨.trace, blockFound, "Found block '" ++ tag.name ++ "' at lines " ++
              rangeText ⟨first, index, none⟩⟩]
      else
        searchFrom tag (index + 1) begun rest

/-- The records of the search for the block of a tag. -/
def ofSearch (tag : Tag) (text : String) : List LogRecord :=
  searchFrom tag 0 none (Text.lines text)

/-- The record of the search for an anchor. -/
def ofAnchor (anchor : Anchor) (text : String) : LogRecord :=
  let subject := "Anchor '" ++ anchor.description ++ "' "
  match anchor.locate text with
  | .ok span => ⟨.trace, anchorLocated, subject ++ "located at line " ++ toString (span.line + 1)⟩
  | .error (.notFound ..) => ⟨.debug, anchorMissing, subject ++ "not found"⟩
  | .error (.ambiguous _ _ lines) =>
      ⟨.debug, anchorAmbiguous, subject ++ "is ambiguous: " ++ toString lines.length ++
        " matching lines"⟩

/-- The records of placing a block that is absent. -/
def ofInsertion (tag : Tag) (anchor : Anchor) (text : String) : List LogRecord :=
  ofAnchor anchor text ::
    match anchor.insertionIndex text with
    | .ok index =>
        [⟨.debug, blockInserted, "Inserting block '" ++ tag.name ++ "' at line " ++
          toString (index + 1)⟩]
    | .error _ => []

/-- The fingerprint of a block as a log shows it. -/
def fingerprintText (block : Block) : String :=
  match block.fingerprint with
  | some fingerprint => String.ofList fingerprint
  | none => "None"

/-- The record of comparing a block with a payload. -/
def ofExisting (tag : Tag) (payload : String) (block : Block) : LogRecord :=
  if block.isCurrent payload then
    ⟨.debug, blockCurrent, "Block '" ++ tag.name ++ "' is up to date (" ++
      fingerprintText block ++ ")"⟩
  else
    ⟨.debug, blockReplaced, "Replacing block '" ++ tag.name ++ "' at lines " ++
      rangeText block ++ " (fingerprint " ++ fingerprintText block ++ " is stale)"⟩

/--
The records of merging a block into a text. An invalid tag leaves none, and a payload that cannot
be encoded those of the search.
-/
def ofAddOrUpdate
    (text name : String)
    (anchor : Anchor)
    (payload : RawText) :
    List LogRecord :=
  match Tag.ofName name with
  | .error _ => []
  | .ok tag =>
      ofSearch tag text ++
        match payload.toText with
        | .error _ => []
        | .ok payload =>
            match Block.find? tag (Text.lines text) with
            | none => ofInsertion tag anchor text
            | some block => [ofExisting tag payload block]

/-- The records of taking a block out of a text. An invalid tag leaves none. -/
def ofRemove (text name : String) : List LogRecord :=
  match Tag.ofName name with
  | .error _ => []
  | .ok tag =>
      ofSearch tag text ++
        match Block.find? tag (Text.lines text) with
        | none => [⟨.debug, blockAbsent, "No block '" ++ tag.name ++ "' to remove"⟩]
        | some block =>
            [⟨.debug, blockRemoved, "Removing block '" ++ tag.name ++ "' at lines " ++
              rangeText block⟩]

/-- Texts between quotes, in brackets. -/
def listText (texts : List String) : String :=
  "[" ++ ", ".intercalate (texts.map Text.quoted) ++ "]"

/-- The record of looking up the values of a fragment. -/
def ofValues (fragment : Fragment) (values : PayloadValues) : LogRecord :=
  ⟨.trace, valuesExtracted, fragment.name ++ ": extracted values " ++
    listText ((values.map (·.1)).mergeSort fun a b => decide (a ≤ b))⟩

/-- The records of bringing the block of a fragment up to date. -/
def ofSync (fragment : Fragment) (text : String) (values : PayloadValues) : List LogRecord :=
  let missing := fragment.missingValues (values.over fragment.defaults)
  if missing.isEmpty then
    match fragment.renderPayload values with
    | .ok payload => ofAddOrUpdate text fragment.tag fragment.anchor payload
    | .error _ => []
  else
    ⟨.info, valuesMissing, fragment.name ++ ": values not set (" ++ ", ".intercalate missing ++
      "), removing block"⟩ :: ofRemove text fragment.tag

end BlockSync.Journal
