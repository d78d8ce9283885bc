import BlockSync.Config.Entry

namespace BlockSync

/-!
# Configurations

A configuration is built up in layers: entries and excluded patterns accumulate, shared values of
later layers win, and single values can be set under dotted keys at the end. A layer that turns out
to be faulty keeps what came before the fault.
-/

/-- The parts of a configuration over some kind of entries and of shared values. -/
structure Settings (E V : Type) where
  root : FilePath
  entries : List E
  values : V
  exclude : List String
  sources : List FilePath

/-- A configuration. -/
abbrev Config := Settings Entry Table

/-- What one source adds to a configuration. -/
structure Layer where
  exclude : List String
  values : Table
  entries : List Entry

namespace Layer

/-- The keys that a source can have. -/
def keys : List String := ["exclude", "values", "fragments"]

/-- The keys of a table that mean nothing, sorted. -/
def unknownKeys (table : Table) : List String :=
  ((table.map (·.1)).filter fun key => !keys.contains key).mergeSort (· ≤ ·)

/-- Reads entries from an index on, up to the first that is refused. -/
def readEntries (source : Option FilePath) :
    Nat → List Value → List Entry × Option LoadError
  | _, [] => ([], none)
  | index, value :: others =>
      match Entry.read value index source with
      | .error error => ([], some error)
      | .ok entry =>
          let (entries, error) := readEntries source (index + 1) others
          (entry :: entries, error)

/-- The layer that a table describes, up to the first fault. -/
def read (table : Table) (source : Option FilePath) : Layer × Option LoadError :=
  let refuse := fun cause => some (LoadError.config ⟨cause, source⟩)
  match Entry.stringsAt (table.get? "exclude") "exclude" with
  | .error cause => (⟨[], [], []⟩, refuse cause)
  | .ok exclude =>
      match (table.get? "values").getD (.table []) with
      | .table values =>
          match (table.get? "fragments").getD (.list []) with
          | .list items =>
              let (entries, error) := readEntries source 0 items
              (⟨exclude, values, entries⟩, error)
          | _ => (⟨exclude, values, []⟩, refuse .fragmentsNotArray)
      | _ => (⟨exclude, [], []⟩, refuse .valuesNotTable)

end Layer

/-- The patterns of directories that are never looked into. -/
def defaultExclude : List String := [".git/", "node_modules/", "Pods/", "build/", ".gradle/"]

namespace Settings

/-- The settings before any source is read. -/
def initial (root : FilePath) : Settings E (List V) := ⟨root, [], [], defaultExclude, []⟩

/-- Adds entries, excluded patterns and a source, with the shared values given. -/
def extend
    (settings : Settings E V)
    (entries : List E)
    (values : V)
    (exclude : List String)
    (source : Option FilePath) :
    Settings E V :=
  { settings with
    entries := settings.entries ++ entries
    values := values
    exclude := settings.exclude ++ exclude
    sources := settings.sources ++ source.toList }

/-- The settings with every excluded pattern listed once. -/
def frozen (settings : Settings E V) : Settings E V :=
  { settings with exclude := settings.exclude.eraseDups }

end Settings

namespace Config

/-- Adds a source to a configuration, up to its first fault. -/
def merge
    (config : Config)
    (table : Table)
    (source : Option FilePath) :
    Config × Option LoadError :=
  let (layer, error) := Layer.read table source
  (config.extend layer.entries (config.values.update layer.values) layer.exclude
    (if error.isNone then source else none), error)

/-- Sets a shared value under a dotted key. -/
def set (config : Config) (key : String) (value : Value) : Config :=
  { config with values := Table.set config.values key value }

/-- Sets shared values under dotted keys, in order. -/
def setAll (config : Config) (values : Table) : Config :=
  values.foldl (fun config (key, value) => config.set key value) config

end Config

end BlockSync
