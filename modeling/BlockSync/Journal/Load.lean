import BlockSync.Config.Load
import BlockSync.Journal.Merge

namespace BlockSync.Journal

/-!
# Records of loading

What a log tells about a configuration: the sources that were read or passed over, and the
configuration in full.
-/

/-- Items in parentheses; a single item is followed by a comma. -/
def tupleText : List String → String
  | [] => "()"
  | [item] => "(" ++ item ++ ",)"
  | items => "(" ++ ", ".intercalate items ++ ")"

/-- Quoted texts in parentheses. -/
def textsText (texts : List String) : String := tupleText (texts.map Text.quoted)

/-- A path in full. -/
def pathText (path : FilePath) : String := "PosixPath(" ++ Text.quoted path.text ++ ")"

/-- Named fields of something, in parentheses. -/
def recordText (kind : String) (fields : List (String × String)) : String :=
  kind ++ "(" ++ ", ".intercalate (fields.map fun (name, text) => name ++ "=" ++ text) ++ ")"

/-- A placement in full. -/
def placementText : Placement → String
  | .before => "<Placement.BEFORE: 'before'>"
  | .after => "<Placement.AFTER: 'after'>"

/-- What an entry says about its fragment, in full. -/
def fragmentFields : EntryFragment → List (String × String)
  | .registered name => [
      ("use", Text.quoted name), ("tag", "None"), ("anchor", "None"),
      ("placement", placementText .before), ("literal", Value.boolText false),
      ("comment", Text.quoted CommentStyle.default.opener),
      ("comment_suffix", Text.quoted CommentStyle.default.closer),
      ("payload", "None"), ("required", "None"), ("description", Text.quoted "")]
  | .inline fragment => [
      ("use", "None"), ("tag", Text.quoted fragment.tag.name),
      ("anchor", Text.quoted fragment.anchor.description),
      ("placement", placementText fragment.anchor.placement),
      ("literal", Value.boolText fragment.isLiteral),
      ("comment", Text.quoted fragment.style.opener),
      ("comment_suffix", Text.quoted fragment.style.closer),
      ("payload", Text.quoted fragment.payload.source),
      ("required", match fragment.required with
        | none => "None"
        | some names => textsText names),
      ("description", Text.quoted fragment.description)]

/-- An entry in full, if its values can be shown. -/
def entryText? (entry : Entry) : Option String := do
  let values ← (Value.table entry.values).detail?
  return recordText "FragmentEntry"
    (("files", textsText entry.files) :: fragmentFields entry.fragment ++ [("values", values)])

/-- A configuration in full, if its values can be shown. -/
def configText? (config : Config) : Option String := do
  let entries ← config.entries.mapM entryText?
  let values ← (Value.table config.values).detail?
  return recordText "Config" [
    ("root", pathText config.root),
    ("fragments", tupleText entries),
    ("values", values),
    ("exclude_patterns", textsText config.exclude),
    ("config_files", tupleText (config.sources.map pathText))]

/-- The record of a note. A configuration that cannot be shown leaves none. -/
def ofNote? : LoadNote → Option LogRecord
  | .noSource root =>
      some ⟨.info, noSource,
        "No " ++ ownSourceName ++ " or [tool.tagmark] found in " ++ root.text⟩
  | .noSection source =>
      some ⟨.warning, noSection, source.text ++ ": no [tool.tagmark] table, skipping"⟩
  | .merging source =>
      some ⟨.debug, sourceMerged, "Merging configuration from " ++ source.text⟩
  | .ignoredKeys source keys =>
      some ⟨.warning, keysIgnored, source.text ++ ": ignoring unknown key(s): " ++
        ", ".intercalate keys⟩
  | .loaded config =>
      (configText? config).map fun text =>
        ⟨.trace, configLoaded, "Effective configuration: " ++ text⟩

/-- The records of loading a configuration. -/
def ofLoading (loading : Loading) : List LogRecord := loading.notes.filterMap ofNote?

end BlockSync.Journal
