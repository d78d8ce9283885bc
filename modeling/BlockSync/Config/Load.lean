import BlockSync.Config.Basic
import BlockSync.Config.Overrides
import BlockSync.Toml.Document

namespace BlockSync

/-!
# Loading configurations

A configuration comes from sources in a fixed format: a file of its own, or a section of a project
file that other tools share.
-/

/-- The name of a source that holds nothing but a configuration. -/
def ownSourceName : String := "tagmark.toml"

/-- The name of a source that holds a configuration in one of its sections. -/
def projectSourceName : String := "pyproject.toml"

namespace Layer

/--
The part of a document that holds the configuration. A project file may have none, unless it has
the section with something else in it.
-/
def section? (path : FilePath) (document : Table) : Except ConfigError (Option Table) :=
  if path.name = projectSourceName then
    match document.get? "tool" with
    | some (.table tool) =>
        match (Table.get? tool "tagmark").filter fun value => !value.isNull with
        | none => .ok none
        | some (.table entries) => .ok (some entries)
        | some _ => .error ⟨.sectionNotTable, some path⟩
    | _ => .ok none
  else
    .ok (some document)

end Layer

/-- The document in a source, which is named as it was asked for. -/
def readDocument (tree : FileNode) (here source : FilePath) : Except LoadError Table := do
  let refuse := fun cause => LoadError.config ⟨cause, some source⟩
  let unreadable := fun kind => refuse (.unreadable (FileError.message ⟨kind, source⟩))
  if FilePath.endsEarly source.text then throw (.fault (.path .nullCharacter))
  if source.isTooLong then throw (unreadable .nameTooLong)
  let content ← (tree.read (here.join source)).mapError fun error => unreadable error.kind
  let text ← (Text.decode content).mapError fun error => .fault (.undecodable error)
  (Toml.parse (Text.withPlainLineEnds text)).mapError fun failure =>
    match failure with
    | .defect defect => refuse (.invalidToml defect.message)
    | .clash clash => .fault (.clash clash)

/-- The part of a source that holds a configuration, if it has one. -/
def readSection? (tree : FileNode) (here source : FilePath) : Except LoadError (Option Table) := do
  let document ← readDocument tree here source
  (Layer.section? source document).mapError .config

/--
The source of a project: a file of its own if there is one, or else a project file that holds a
configuration.
-/
def discover? (tree : FileNode) (root : FilePath) : Except LoadError (Option FilePath) := do
  let own := root.child ownSourceName
  let project := root.child projectSourceName
  let has := fun source => (tree.hasFile .here source).mapError fun e => LoadError.fault (.path e)
  if ← has own then
    return some own
  else if ← has project then
    return (← readSection? tree root project).map fun _ => project
  else
    return none

/-- What is worth noting while a configuration is loaded. -/
inductive LoadNote where
  | noSource (root : FilePath)
  | noSection (source : FilePath)
  | merging (source : FilePath)
  | ignoredKeys (source : FilePath) (keys : List String)
  | loaded (config : Config)

/-- The configuration as far as it was loaded, what was noted, and what went wrong, if anything. -/
structure Loading where
  config : Config
  notes : List LoadNote
  failure : Option LoadError

namespace Loading

/-- Nothing loaded yet. -/
def start (root : FilePath) : Loading := ⟨.initial root, [], none⟩

/-- Adds notes. -/
def note (loading : Loading) (notes : List LoadNote) : Loading :=
  { loading with notes := loading.notes ++ notes }

/-- Stops with a failure. -/
def fail (loading : Loading) (error : LoadError) : Loading :=
  { loading with failure := some error }

/-- Adds the section of a source. -/
def mergeSection (loading : Loading) (source : FilePath) (table : Table) : Loading :=
  let unknown := Layer.unknownKeys table
  let notes := if unknown.isEmpty then [] else [LoadNote.ignoredKeys source unknown]
  let (config, failure) := Config.merge loading.config table (some source)
  { config := config, notes := loading.notes ++ .merging source :: notes, failure := failure }

/-- Adds a source, unless something went wrong before. A source without a section adds nothing. -/
def addSource
    (tree : FileNode)
    (here : FilePath)
    (loading : Loading)
    (source : FilePath) :
    Loading :=
  if loading.failure.isSome then loading
  else
    match tree.hasFile here source with
    | .error fault => loading.fail (.fault (.path fault))
    | .ok false => loading.fail (.config ⟨.sourceMissing, some source⟩)
    | .ok true =>
        match readSection? tree here source with
        | .error error => loading.fail error
        | .ok none => loading.note [.noSection source]
        | .ok (some table) => loading.mergeSection source table

/-- Adds the given sources, or the one that the project has if none are given. -/
def addSources
    (tree : FileNode)
    (here : FilePath)
    (sources : List FilePath)
    (loading : Loading) :
    Loading :=
  match sources with
  | [] =>
      match discover? tree loading.config.root with
      | .error error => loading.fail error
      | .ok none => loading.note [.noSource loading.config.root]
      | .ok (some source) => addSource tree here loading source
  | sources => sources.foldl (addSource tree here) loading

/-- Sets values by dotted key on top of all sources and freezes the configuration. -/
def finish (overrides : Table) (loading : Loading) : Loading :=
  if loading.failure.isSome then loading
  else
    let config := loading.config.setAll overrides
    { loading with config := config.frozen, notes := loading.notes ++ [.loaded config.frozen] }

/-- The configuration, unless something went wrong. -/
def result (loading : Loading) : Except LoadError Config :=
  match loading.failure with
  | some error => .error error
  | none => .ok loading.config

end Loading

/--
Loads the configuration of a project: the defaults, then the sources in order, then the overrides.
Paths are taken from the directory that is given first.
-/
def loadConfig
    (tree : FileNode)
    (here root : FilePath)
    (sources : List FilePath)
    (overrides : Table) :
    Loading :=
  match tree.resolve (here.join root) with
  | .error fault => (Loading.start root).fail (.fault (.path fault))
  | .ok root => ((Loading.start root).addSources tree here sources).finish overrides

end BlockSync
