import BlockSync.FileTree.Resolve
import BlockSync.Regex.Error
import BlockSync.Text.Utf8
import BlockSync.Toml.Failure

namespace BlockSync

/-!
# Refused configurations

What can be wrong with the sources of a configuration. A refusal names the source it was found in
when that is known. A fault is a failure that no message foresees and that ends a run.
-/

/-- What is wrong with a configuration. Entries are counted from zero. -/
inductive ConfigCause where
  | notStrings (key : String)
  | valuesNotTable
  | fragmentsNotArray
  | entryNotTable (index : Nat)
  | unknownKeys (index : Nat) (keys : List String)
  | filesMissing (index : Nat)
  | entryValuesNotTable (index : Nat)
  | useOrTag (index : Nat)
  | useNotString (index : Nat)
  | emptyText (index : Nat) (key : String)
  | blankInTag (index : Nat)
  | invalidPlaceholder (index : Nat)
  | unknownPlacement (index : Nat) (value : String)
  | literalNotBool (index : Nat)
  | invalidPattern (index : Nat) (error : Regex.Error)
  | notString (index : Nat) (key : String)
  | invalidOverride (item : String)
  | unreadable (reason : String)
  | invalidToml (reason : String)
  | sectionNotTable
  | sourceMissing
  | sharedTag (path first second tag : String)
  deriving Repr, DecidableEq

/-- The place of an entry. -/
def entryPlace (index : Nat) : String := "fragments[" ++ toString index ++ "]"

/-- The message of a cause. -/
def ConfigCause.message : ConfigCause → String
  | .notStrings key => "'" ++ key ++ "' must be a string or a list of strings"
  | .valuesNotTable => "'values' must be a table"
  | .fragmentsNotArray => "'fragments' must be an array of tables"
  | .entryNotTable index => entryPlace index ++ " must be a table"
  | .unknownKeys index keys => entryPlace index ++ ": unknown key(s): " ++ ", ".intercalate keys
  | .filesMissing index => entryPlace index ++ ": 'files' is required"
  | .entryValuesNotTable index => entryPlace index ++ ".values must be a table"
  | .useOrTag index => entryPlace index ++ ": exactly one of 'use' or 'tag' is required"
  | .useNotString index => entryPlace index ++ ".use must be a string"
  | .emptyText index key => entryPlace index ++ ": '" ++ key ++ "' must be a non-empty string"
  | .blankInTag index => entryPlace index ++ ": 'tag' must not contain spaces"
  | .invalidPlaceholder index =>
      entryPlace index ++ ": 'payload' has an invalid placeholder (escape '$' as '$$')"
  | .unknownPlacement index value =>
      entryPlace index ++ ".placement must be 'before' or 'after', got " ++ value
  | .literalNotBool index => entryPlace index ++ ".literal must be a boolean"
  | .invalidPattern index error =>
      entryPlace index ++ ".anchor: invalid regex: " ++ error.message
  | .notString index key => entryPlace index ++ "." ++ key ++ " must be a string"
  | .invalidOverride item =>
      "invalid value override " ++ Text.quoted item ++ " (expected KEY=VALUE)"
  | .unreadable reason => "cannot read configuration: " ++ reason
  | .invalidToml reason => "invalid TOML: " ++ reason
  | .sectionNotTable => "[tool.tagmark] must be a table"
  | .sourceMissing => "configuration file not found"
  | .sharedTag path first second tag =>
      path ++ ": fragments '" ++ first ++ "' and '" ++ second ++ "' share the tag '" ++ tag ++ "'"

/-- A refused configuration: the cause, and the source it was found in when that is known. -/
structure ConfigError where
  cause : ConfigCause
  source : Option FilePath
  deriving Repr, DecidableEq

/-- The message of a refusal. -/
def ConfigError.message (error : ConfigError) : String :=
  match error.source with
  | none => error.cause.message
  | some source => source.text ++ ": " ++ error.cause.message

/-- A failure that no message foresees. -/
inductive Fault where
  | pattern (error : Regex.Error)
  | undecodable (error : Text.DecodeError)
  | clash (clash : Toml.Clash)
  | tooManyDigits
  | glob (pattern : String)
  | nothingNamed
  | path (fault : PathFault)
  deriving Repr, DecidableEq

/-- The message of a fault. -/
def Fault.message : Fault → String
  | .pattern error => error.message
  | .undecodable error => error.message
  | .clash error => error.message
  | .tooManyDigits => Text.digitLimitExceeded none
  | .glob text => "Invalid git pattern: " ++ Text.quoted text
  | .nothingNamed => ""
  | .path error => error.message

/-- Why a configuration could not be loaded. -/
inductive LoadError where
  | config (error : ConfigError)
  | fault (fault : Fault)
  deriving Repr, DecidableEq

/-- The message of a failed loading. -/
def LoadError.message : LoadError → String
  | .config error => error.message
  | .fault error => error.message

end BlockSync
