import BlockSync.Config.Basic
import BlockSync.Fragment.Catalogue
import BlockSync.Proofs.Fragment.Values
import BlockSync.Proofs.Text.Lines
import BlockSync.Proofs.Value.Dotted

namespace BlockSync

/-!
# Values set under dotted keys

A shared value that is set under a dotted key is looked up under that key, and nothing else is lost
but what stands in its way.  So a fragment that asks for the key gets the value, unless there is one
under its flat name.
-/

namespace Table

/-- Whether a dotted key starts with the parts of another one. -/
def StartsWith (path key : String) : Prop :=
  keyParts key <+: keyParts path

/-- Whether a dotted key starts with another one can be computed. -/
instance (path key : String) : Decidable (StartsWith path key) :=
  inferInstanceAs (Decidable (_ <+: _))

/-- Dotted keys with the same parts are the same. -/
theorem keyParts_injective : Function.Injective keyParts := by
  intro first second same
  have samePieces :
      Text.splitOn '.' first.toList = Text.splitOn '.' second.toList :=
    List.map_injective_iff.mpr (fun _ _ => String.ofList_inj.mp) same
  rw [← String.toList_inj, ← Text.joinWith_splitOn '.' first.toList, samePieces,
    Text.joinWith_splitOn]

/-- A longer dotted key goes on behind the parts of the one that it starts with. -/
theorem StartsWith.exists_rest
    {path key : String}
    (startsWith : StartsWith path key)
    (different : path ≠ key) :
    ∃ next others, keyParts path = keyParts key ++ next :: others := by
  obtain ⟨rest, shape⟩ := startsWith
  cases rest with
  | nil =>
      rw [List.append_nil] at shape
      exact (different (keyParts_injective shape.symm)).elim
  | cons next others =>
      exact ⟨next, others, shape.symm⟩

/-- A dotted key leads past a table without its first part. -/
theorem lookup?_update_of_absent
    {upper : Table}
    (distinct : upper.Distinct)
    (lower : Table)
    {key : String}
    (absent : ∀ first ∈ (keyParts key).head?, upper.get? first = none) :
    (lower.update upper).lookup? key = lower.lookup? key := by
  obtain ⟨first, others, cut⟩ := exists_keyParts_eq_cons key
  have missing : upper.get? first = none :=
    absent first (by rw [cut]; rfl)
  have unhidden : (lower.beside upper).get? first = lower.get? first := by
    rw [get?_beside, missing]
    rfl
  rw [lookup?_update distinct, lookup?, lookup?, lookup?, cut,
    follow?_of_get?_eq_none missing, Option.none_or, follow?_congr unhidden]

/-- A dotted key has a part at least. -/
theorem keyParts_ne_nil (key : String) : keyParts key ≠ [] := by
  obtain ⟨first, others, cut⟩ := exists_keyParts_eq_cons key
  exact cut ▸ List.cons_ne_nil first others

section Set

variable {value : Value} {key path : String}

/-- A value is found under the key that it is set under. -/
theorem lookup?_set_self
    (notNull : value.isNull = false)
    (table : Table)
    (key : String) :
    (table.set key value).lookup? key = some value :=
  follow?_insertAt_self notNull (keyParts_ne_nil key) table

/-- Nothing is found under a longer key than one that a value without entries is set under. -/
theorem lookup?_set_of_longer
    (entryless : value.entries = [])
    (longer : StartsWith path key)
    (different : path ≠ key)
    (table : Table) :
    (table.set key value).lookup? path = none := by
  obtain ⟨next, others, shape⟩ := longer.exists_rest different
  rw [lookup?, shape]
  exact follow?_insertAt_append entryless (keyParts_ne_nil key) table next others

/-- A table is found under a shorter key than one that a value is set under. -/
theorem exists_lookup?_set_of_shorter
    (shorter : StartsWith key path)
    (different : path ≠ key)
    (table : Table)
    (value : Value) :
    ∃ inner, (table.set key value).lookup? path = some (.table inner) := by
  obtain ⟨next, others, shape⟩ := shorter.exists_rest different.symm
  rw [lookup?, set, shape]
  exact exists_follow?_insertAt (keyParts_ne_nil path) value table next others

/-- Under any other key the same is found as before. -/
theorem lookup?_set_of_apart
    (notLonger : ¬ StartsWith path key)
    (notShorter : ¬ StartsWith key path)
    (table : Table)
    (value : Value) :
    (table.set key value).lookup? path = table.lookup? path :=
  follow?_insertAt_of_not_prefix notShorter notLonger value table

end Set

end Table

namespace Fragment

variable {fragment : Fragment} {config : Table} {name key value : String}

/-- A name with a dotted key is one of the names of a fragment. -/
theorem mem_valueNames_of_valueKeys
    (hasKey : fragment.valueKeys.lookup name = some key) :
    name ∈ fragment.valueNames := by
  have isKey : name ∈ fragment.valueKeys.map (·.1) := by
    by_contra absent
    rw [lookup_eq_none_of_notMem absent] at hasKey
    cases hasKey
  rw [valueNames, List.mem_eraseDups]
  simp only [List.mem_append]
  exact .inl (.inr isKey)

/--
Whether a fragment gets a text for a name: the value that it picks out is this text, and if all its
values have texts, it gets them, with this one under the name.
-/
structure Gets (fragment : Fragment) (config : Table) (name text : String) : Prop where
  picked :
    fragment.valueIn? config name = some (.string text)
  extracted :
    fragment.Spelled config →
      ∃ values,
        fragment.extractValues config = .ok values ∧ values.lookup name = some text

/-- The value under the dotted key of a name is picked out if none is under the name itself. -/
theorem gets_of_path
    (hasKey : fragment.valueKeys.lookup name = some key)
    (noFlat : Entry.present? config name = none)
    (found : config.lookup? key = some (.string value)) :
    fragment.Gets config name value := by
  have picked : fragment.valueIn? config name = some (.string value) := by
    rw [valueIn?_eq, noFlat, Option.none_or, pathValue?, hasKey, Option.bind_some, found]
  refine ⟨picked, fun spelled => ?_⟩
  obtain ⟨values, extracted⟩ := exists_extractValues_iff.mpr spelled
  refine ⟨values, extracted, ?_⟩
  rw [lookup_of_extractValues extracted (mem_valueNames_of_valueKeys hasKey), picked]
  rfl

end Fragment

/--
A value that is set under a dotted key is found there, every longer key finds nothing, every shorter
one on the way finds a table, and any other key what it found before.  A fragment that asks for the
key gets the value, unless there is one under its flat name, also through an entry that has no value
under the first part of the key.
-/
theorem Config.lookup?_set
    (config : Config)
    (key value : String) :
    let values : Table := (config.set key (.string value)).values
    values.lookup? key = some (.string value) ∧
      (∀ path, Table.StartsWith path key → path ≠ key → values.lookup? path = none) ∧
      (∀ path, Table.StartsWith key path → path ≠ key →
        ∃ inner, values.lookup? path = some (.table inner)) ∧
      (∀ path, ¬ Table.StartsWith path key → ¬ Table.StartsWith key path →
        values.lookup? path = Table.lookup? config.values path) ∧
      (∀ (fragment : Fragment) (name : String),
        fragment.valueKeys.lookup name = some key →
          Entry.present? values name = none →
          fragment.Gets values name value) ∧
      ∀ (entry : Entry) (fragment : Fragment) (name : String),
        Table.Distinct entry.values →
          (∀ first ∈ (Table.keyParts key).head?, Table.get? entry.values first = none) →
          fragment.valueKeys.lookup name = some key →
          Entry.present? (entry.effectiveValues values) name = none →
          fragment.Gets (entry.effectiveValues values) name value := by
  intro values
  have found : values.lookup? key = some (.string value) :=
    Table.lookup?_set_self rfl config.values key
  refine ⟨found, ?_, ?_, ?_, ?_, ?_⟩
  · intro path startsWith different
    exact Table.lookup?_set_of_longer rfl startsWith different config.values
  · intro path startsWith different
    exact Table.exists_lookup?_set_of_shorter startsWith different config.values _
  · intro path notLonger notShorter
    exact Table.lookup?_set_of_apart notLonger notShorter config.values _
  · intro fragment name hasKey noFlat
    exact Fragment.gets_of_path hasKey noFlat found
  · intro entry fragment name distinct unhidden hasKey noFlat
    refine Fragment.gets_of_path hasKey noFlat ?_
    rw [Entry.effectiveValues, Table.lookup?_update_of_absent distinct values unhidden, found]

/-- Shared values with a note where the settings for iOS would be. -/
def notedConfig : Config :=
  ⟨⟨"/", []⟩, [], [("ios", .string "later"), ("name", .string "app")], [], []⟩

/-- An entry for the initialiser call of a Swift application, with a value of its own. -/
def namedEntry : Entry :=
  ⟨["AppDelegate.swift"], .registered "google-maps-swift-init", [("name", .string "own")]⟩

/-- The key of the service makes room for itself, and comes through an entry with other values. -/
theorem Config.lookup?_set_iosKey :
    let values : Table := (notedConfig.set "ios.config.googleMapsApiKey" (.string "key")).values
    values.lookup? "ios.config.googleMapsApiKey" = some (.string "key") ∧
      values.lookup? "ios.config.googleMapsApiKey." = none ∧
      (∃ inner, values.lookup? "ios" = some (.table inner)) ∧
      values.lookup? "name" = some (.string "app") ∧
      Catalogue.swiftInit.Gets values "api_key" "key" ∧
      Catalogue.swiftInit.Gets (namedEntry.effectiveValues values) "api_key" "key" := by
  intro values
  obtain ⟨found, longer, shorter, apart, flat, throughEntry⟩ :=
    Config.lookup?_set notedConfig "ios.config.googleMapsApiKey" "key"
  have hasKey :
      Catalogue.swiftInit.valueKeys.lookup "api_key" = some "ios.config.googleMapsApiKey" := by
    rfl
  have distinct : Table.Distinct namedEntry.values := by
    decide
  have unhidden :
      ∀ first ∈ (Table.keyParts "ios.config.googleMapsApiKey").head?,
        Table.get? namedEntry.values first = none := by
    intro first isFirst
    obtain rfl : "ios" = first := Option.some.inj isFirst
    rfl
  exact
    ⟨found, longer _ (by decide) (by decide), shorter _ (by decide) (by decide),
      apart "name" (by decide) (by decide), flat _ _ hasKey rfl,
      throughEntry _ _ _ distinct unhidden hasKey rfl⟩

end BlockSync
