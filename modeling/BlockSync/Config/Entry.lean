import BlockSync.Config.Error
import BlockSync.Fragment.Registry

namespace BlockSync

/-!
# Entries

An entry binds a fragment to the files it goes into. The fragment is either a registered one, or
described by the entry itself; a description is checked when it is read, so that an entry which
was accepted can always be built. Names, patterns and descriptions are spelled in characters, as in
every source; only the values of an entry can hold a broken text.
-/

/-- A fragment described by an entry. -/
structure InlineFragment where
  tag : Tag
  anchor : Anchor
  isLiteral : Bool
  style : CommentStyle
  payload : Template
  required : Option (List String)
  description : String
  deriving DecidableEq

/-- Where the fragment of an entry comes from. -/
inductive EntryFragment where
  | registered (name : String)
  | inline (fragment : InlineFragment)
  deriving DecidableEq

/-- A fragment and the patterns of the files it goes into, with values of its own. -/
structure Entry where
  files : List String
  fragment : EntryFragment
  values : Table

/-- Why the fragment of an entry could not be built. -/
inductive BuildError where
  | registry (error : RegistryError)
  | nothingNamed
  deriving Repr, DecidableEq

namespace Entry

/-- The keys that an entry can have. -/
def keys : List String :=
  ["use", "files", "tag", "anchor", "placement", "literal", "comment", "comment_suffix",
    "payload", "required", "description", "values"]

/-- The name of an entry in messages: that of its fragment, or its tag. -/
def label (entry : Entry) : String :=
  match entry.fragment with
  | .registered name => if name.isEmpty then "<unnamed>" else name
  | .inline fragment => fragment.tag.name

/-- The fragment of an entry. An empty name names nothing. -/
def build (registry : Registry) (entry : Entry) : Except BuildError Fragment :=
  match entry.fragment with
  | .registered name =>
      if name.isEmpty then .error .nothingNamed
      else (registry.get name).mapError .registry
  | .inline fragment =>
      .ok (Fragment.ofTemplate fragment.tag.name fragment.anchor fragment.payload fragment.style
        fragment.required [] "" fragment.description)

/-- Shared values under the values of an entry. -/
def effectiveValues (entry : Entry) (shared : Table) : Table :=
  shared.update entry.values

/-- The strings of a value that is a string or a list of strings. -/
def stringList? : Value → Option (List String)
  | .string value => some [value]
  | .list items => Value.strings? items
  | _ => none

/-- The strings under a key, which may be missing. -/
def stringsAt
    (value? : Option Value)
    (key : String) :
    Except ConfigCause (List String) :=
  match value? with
  | none => .ok []
  | some value =>
      match stringList? value with
      | some strings => .ok strings
      | none => .error (.notStrings key)

/-- The value under a key, unless it is missing or stands for nothing. -/
def present? (table : Table) (key : String) : Option Value :=
  (table.get? key).filter fun value => !value.isNull

/-- A string that must be there and not be empty. -/
def textAt (table : Table) (index : Nat) (key : String) : Except ConfigCause String :=
  match table.get? key with
  | some (.string value) => if value.isEmpty then .error (.emptyText index key) else .ok value
  | _ => .error (.emptyText index key)

/--
The placement of a description; in front of the anchor unless another one is given. A refusal shows
the value, which is a fault of its own if an integer in it has too many digits.
-/
def placementAt (table : Table) (index : Nat) : Except (ConfigCause ⊕ Fault) Placement :=
  match table.get? "placement" with
  | none => .ok .before
  | some value =>
      let placement? :=
        match value with
        | .string word => Placement.ofText? word
        | _ => none
      match placement?, value.detail? with
      | some placement, _ => .ok placement
      | none, some shown => .error (.inl (.unknownPlacement index shown))
      | none, none => .error (.inr .tooManyDigits)

/-- Whether the anchor of a description is meant literally. -/
def literalAt (table : Table) (index : Nat) : Except ConfigCause Bool :=
  match table.get? "literal" with
  | none => .ok false
  | some (.bool value) => .ok value
  | some _ => .error (.literalNotBool index)

/-- A string that has a default when it is missing. -/
def stringOr (default : String) (table : Table) (index : Nat) (key : String) :
    Except ConfigCause String :=
  match table.get? key with
  | none => .ok default
  | some (.string value) => .ok value
  | some _ => .error (.notString index key)

/-- The anchor of a description. -/
def anchorOf (isLiteral : Bool) (index : Nat) (source : String) (placement : Placement) :
    Except (ConfigCause ⊕ Fault) Anchor :=
  if isLiteral then
    .ok (.literal source placement "")
  else
    (Anchor.regex source placement "").mapError fun error =>
      match error.kind with
      | .malformed => .inl (.invalidPattern index error)
      | _ => .inr (.pattern error)

/-- The required values of a description, unless they follow from its payload. -/
def requiredAt (table : Table) (index : Nat) : Except ConfigCause (Option (List String)) :=
  match present? table "required" with
  | none => .ok none
  | some value =>
      (stringsAt (some value) (entryPlace index ++ ".required")).map some

/-- The description of a fragment in an entry with a tag. -/
def readInline (table : Table) (index : Nat) : Except (ConfigCause ⊕ Fault) InlineFragment := do
  let name ← (textAt table index "tag").mapError .inl
  let source ← (textAt table index "anchor").mapError .inl
  let payload ← (textAt table index "payload").mapError .inl
  let tag ← (Tag.ofName name).mapError fun _ => .inl (.blankInTag index)
  let template := Template.parse payload
  if !template.isValid then throw (.inl (.invalidPlaceholder index))
  let placement ← placementAt table index
  let isLiteral ← (literalAt table index).mapError .inl
  let anchor ← anchorOf isLiteral index source placement
  let required ← (requiredAt table index).mapError .inl
  let opener ← (stringOr "#" table index "comment").mapError .inl
  let closer ← (stringOr "" table index "comment_suffix").mapError .inl
  let description ← (stringOr "" table index "description").mapError .inl
  return ⟨tag, anchor, isLiteral, ⟨opener, closer⟩, template, required, description⟩

/-- The entry that a table describes. -/
def readTable (table : Table) (index : Nat) : Except (ConfigCause ⊕ Fault) Entry := do
  let unknown := (table.map (·.1)).filter fun key => !keys.contains key
  if !unknown.isEmpty then
    throw (.inl (.unknownKeys index (unknown.mergeSort (· ≤ ·))))
  let files ← (stringsAt (table.get? "files") (entryPlace index ++ ".files")).mapError .inl
  if files.isEmpty then throw (.inl (.filesMissing index))
  let values ← match table.get? "values" with
    | none => pure []
    | some (.table values) => pure values
    | some _ => throw (.inl (.entryValuesNotTable index))
  match present? table "use", present? table "tag" with
  | some (.string name), none => return ⟨files, .registered name, values⟩
  | some _, none => throw (.inl (.useNotString index))
  | none, some _ => return ⟨files, .inline (← readInline table index), values⟩
  | _, _ => throw (.inl (.useOrTag index))

/-- The entry that a value describes, found in a source. -/
def read (value : Value) (index : Nat) (source : Option FilePath) : Except LoadError Entry :=
  let entry := match value with
    | .table table => readTable table index
    | _ => .error (.inl (.entryNotTable index))
  entry.mapError fun error =>
    match error with
    | .inl cause => .config ⟨cause, source⟩
    | .inr fault => .fault fault

end Entry

end BlockSync
