import BlockSync.Merge
import BlockSync.Template
import BlockSync.Value.Table

namespace BlockSync

/-!
# Fragments

A fragment is one kind of generated content: the tag of its block, the anchor of a fresh block,
the comment style of the host file, and a payload made from values. Values that are not given fall
back to defaults; a required value that is absent or empty takes the block out again.
-/

/-- The values of a payload, by name. -/
abbrev PayloadValues := List (String × RawText)

/-- One kind of generated content. A fragment without a payload cannot be rendered. -/
structure Fragment where
  kind : String
  name : String
  description : String
  tag : String
  anchor : Anchor
  style : CommentStyle
  required : List String
  defaults : PayloadValues
  valueKeys : List (String × String)
  payload : Option Template
  deriving Repr, DecidableEq

/-- Why a fragment got no values, or could not be rendered or merged. -/
inductive FragmentError where
  | tooManyDigits
  | missingValues (fragment : String) (names : List String)
  | invalidPlaceholder (line column : Nat)
  | noPayload
  | merge (error : MergeError)
  deriving Repr, DecidableEq

/-- The message of a failed fragment. -/
def FragmentError.message : FragmentError → String
  | .tooManyDigits => Text.digitLimitExceeded none
  | .missingValues fragment names =>
      "Fragment '" ++ fragment ++ "' is missing required value(s): " ++ ", ".intercalate names
  | .invalidPlaceholder line column =>
      "Invalid placeholder in string: line " ++ toString line ++ ", col " ++ toString column
  | .noPayload => ""
  | .merge error => error.message

/--
Whether a failure is one that fragments are meant to have: a missing value, a tag that is none, or
an anchor. Any other failure is a fault of what they are given.
-/
def FragmentError.isExpected : FragmentError → Bool
  | .missingValues .. => true
  | .merge (.invalidTag _) => true
  | .merge (.anchor _) => true
  | _ => false

/-- Stores a value under its name: in place of the old one, or as the last. -/
def PayloadValues.insert (name : String) (value : RawText) : PayloadValues → PayloadValues
  | [] => [(name, value)]
  | (other, old) :: rest =>
      if other = name then (name, value) :: rest
      else (other, old) :: PayloadValues.insert name value rest

/-- Values over defaults. -/
def PayloadValues.over (values defaults : PayloadValues) : PayloadValues :=
  values.foldl (fun merged (name, value) => merged.insert name value) defaults

namespace Fragment

/--
A fragment described by its parts. Unless given, the placeholders without default are required.
-/
def ofTemplate
    (tag : String)
    (anchor : Anchor)
    (template : Template)
    (style : CommentStyle)
    (required : Option (List String))
    (defaults : PayloadValues)
    (name description : String) :
    Fragment :=
  let undefaulted := template.names.filter fun placeholder => (defaults.lookup placeholder).isNone
  {
    kind := "TemplateFragment"
    name := if name.isEmpty then tag else name
    description := description
    tag := tag
    anchor := anchor
    style := style
    required := required.getD undefaulted
    defaults := defaults
    valueKeys := []
    payload := some template
  }

/-- The kind of a fragment with its name and tag. -/
def display (fragment : Fragment) : String :=
  fragment.kind ++ "(name=" ++ Text.quoted fragment.name ++ ", tag=" ++
    Text.quoted fragment.tag ++ ")"

/-- The names of all values a fragment can use, each once. -/
def valueNames (fragment : Fragment) : List String :=
  let placeholders := match fragment.payload with
    | none => []
    | some template => template.names
  (fragment.required ++ fragment.defaults.map (·.1) ++ fragment.valueKeys.map (·.1) ++
    placeholders).eraseDups

/--
The value that a configuration gives a name: the one under the name itself, or else the one under
the name's dotted key.
-/
def valueIn? (fragment : Fragment) (config : Table) (name : String) : Option Value :=
  match config.get? name with
  | some value =>
      if value.isNull then (fragment.valueKeys.lookup name).bind config.lookup? else some value
  | none => (fragment.valueKeys.lookup name).bind config.lookup?

/-- The values that a configuration gives. Names without a value are left out. -/
def valuesIn (fragment : Fragment) (config : Table) : List (String × Value) :=
  fragment.valueNames.filterMap fun name => (fragment.valueIn? config name).map (name, ·)

/-- The texts of some values, all of which must have one. -/
def textsOf : List (String × Value) → Except FragmentError PayloadValues
  | [] => .ok []
  | (name, value) :: others =>
      match value.payloadText? with
      | none => .error .tooManyDigits
      | some text => (textsOf others).map ((name, text) :: ·)

/-- The texts of the values that a configuration gives. -/
def extractValues (fragment : Fragment) (config : Table) : Except FragmentError PayloadValues :=
  textsOf (fragment.valuesIn config)

/-- The required names whose value is absent or empty. -/
def missingValues (fragment : Fragment) (values : PayloadValues) : List String :=
  fragment.required.filter fun name => ((values.lookup name).getD []).isEmpty

/-- The payload for complete values. -/
def buildPayload (fragment : Fragment) (values : PayloadValues) : Except FragmentError RawText :=
  match fragment.payload with
  | none => .error .noPayload
  | some template =>
      (template.render values).mapError fun error =>
        match error with
        | .missing name => .missingValues fragment.name [name]
        | .invalidPlaceholder line column => .invalidPlaceholder line column

/-- The payload for values over the defaults, if no required one is missing. -/
def renderPayload (fragment : Fragment) (values : PayloadValues) : Except FragmentError RawText :=
  let merged := values.over fragment.defaults
  let missing := fragment.missingValues merged
  if missing.isEmpty then
    fragment.buildPayload merged
  else
    .error (.missingValues (if fragment.name.isEmpty then fragment.tag else fragment.name) missing)

/-- Makes sure that a text holds an up-to-date block of the fragment. -/
def apply
    (fragment : Fragment)
    (text : String)
    (values : PayloadValues) :
    Except FragmentError MergeResult := do
  let payload ← fragment.renderPayload values
  (Merge.addOrUpdate text fragment.tag fragment.anchor payload fragment.style).mapError .merge

/-- Takes the fragment's block out of a text. -/
def remove (fragment : Fragment) (text : String) : Except FragmentError MergeResult :=
  (Merge.remove text fragment.tag).mapError .merge

/-- Applies the fragment if its required values are set, and otherwise takes its block out. -/
def sync
    (fragment : Fragment)
    (text : String)
    (values : PayloadValues) :
    Except FragmentError MergeResult :=
  if (fragment.missingValues (values.over fragment.defaults)).isEmpty then
    fragment.apply text values
  else
    fragment.remove text

end Fragment

end BlockSync
