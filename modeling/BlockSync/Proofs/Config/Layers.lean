import BlockSync.Fragment.Catalogue
import BlockSync.Proofs.Fragment.Values
import BlockSync.Proofs.Value.Table

namespace BlockSync

/-!
# Values of an entry over shared ones

The values of an entry are put over the shared ones as whole tables, and only then the values of a
fragment are picked out.  So the value that an entry has for a name wins, and a name that it has no
value for falls back to the shared one, as long as neither of the two ways to give a value gets in
the way of the other: a shared value under the name itself comes before a value of the entry under a
dotted key, and an entry with the first key of a dotted key hides the shared table there.
-/

/-- A value that stands for something is looked up in the upper table, or else beside it. -/
theorem Entry.present?_update
    {upper : Table}
    (distinct : upper.Distinct)
    (lower : Table)
    (key : String) :
    present? (lower.update upper) key =
      (present? upper key).or (present? (lower.beside upper) key) := by
  have beside := lower.get?_beside upper key
  rw [present?, present?, present?, Table.get?_update distinct]
  cases found : upper.get? key with
  | none =>
      rfl
  | some value =>
      -- A key of the upper table is not beside it, whatever its value stands for.
      rw [found, Option.isSome_some, if_pos rfl] at beside
      rw [Option.isSome_some, if_pos rfl, beside, Option.filter_none, Option.or_none]

namespace Fragment

/-- A value under a dotted key is looked up in the upper table, or else beside it. -/
theorem pathValue?_update
    {upper : Table}
    (distinct : upper.Distinct)
    (fragment : Fragment)
    (lower : Table)
    (name : String) :
    fragment.pathValue? (lower.update upper) name =
      (fragment.pathValue? upper name).or (fragment.pathValue? (lower.beside upper) name) := by
  rw [pathValue?, pathValue?, pathValue?]
  cases fragment.valueKeys.lookup name with
  | none =>
      rfl
  | some key =>
      exact Table.lookup?_update distinct lower key

/-- The value that two tables, one over the other, give a name. -/
def valueOver? (fragment : Fragment) (upper lower : Table) (name : String) : Option Value :=
  (Entry.present? upper name).or <|
    (Entry.present? (lower.beside upper) name).or <|
      (fragment.pathValue? upper name).or (fragment.pathValue? (lower.beside upper) name)

/-- A table over another one gives a name the first value of those that the two tables have. -/
theorem valueIn?_update
    {upper : Table}
    (distinct : upper.Distinct)
    (fragment : Fragment)
    (lower : Table)
    (name : String) :
    fragment.valueIn? (lower.update upper) name = fragment.valueOver? upper lower name := by
  rw [valueIn?_eq, Entry.present?_update distinct, pathValue?_update distinct, valueOver?,
    Option.or_assoc]

/--
Whether two tables, one over the other, give a name the value of the upper one by itself, or else
that of the lower one by itself: no other value under the name itself comes before a value of the
upper table, and the upper table hides no value of the lower one without having one of its own.
-/
structure Layered (fragment : Fragment) (upper lower : Table) (name : String) : Prop where
  upperFirst :
    ∀ value, fragment.valueIn? upper name = some value →
      Entry.present? upper name = none →
        ∀ other, Entry.present? (lower.beside upper) name = some other →
          other.payloadText? = value.payloadText?
  lowerSeen :
    fragment.valueIn? upper name = none →
      (fragment.valueIn? (lower.beside upper) name).map Value.payloadText? =
        (fragment.valueIn? lower name).map Value.payloadText?

/-- A name is layered exactly if it gets the value of the upper table, or else that of the lower. -/
theorem layered_iff
    (fragment : Fragment)
    (upper lower : Table)
    (name : String) :
    fragment.Layered upper lower name ↔
      (fragment.valueOver? upper lower name).map Value.payloadText? =
        ((fragment.valueIn? upper name).map Value.payloadText?).or
          ((fragment.valueIn? lower name).map Value.payloadText?) := by
  have besideValue := fragment.valueIn?_eq (lower.beside upper) name
  have upperValue := fragment.valueIn?_eq upper name
  rw [valueOver?]
  cases own : Entry.present? upper name with
  | some value =>
      -- Under the name itself the upper table decides, and nothing is asked for.
      rw [own, Option.some_or] at upperValue
      rw [upperValue, Option.some_or, Option.map_some, Option.some_or]
      refine iff_of_true ⟨fun _ _ absent => ?_, fun absent => ?_⟩ rfl
      · rw [own] at absent
        cases absent
      · rw [upperValue] at absent
        cases absent
  | none =>
      rw [own, Option.none_or] at upperValue
      rw [Option.none_or, upperValue]
      cases path : fragment.pathValue? upper name with
      | some value =>
          rw [path] at upperValue
          rw [Option.some_or, Option.map_some, Option.some_or]
          constructor
          · rintro ⟨upperFirst, _⟩
            cases other : Entry.present? (lower.beside upper) name with
            | none =>
                rfl
            | some first =>
                rw [Option.some_or, Option.map_some, upperFirst value upperValue own first other]
          · intro same
            refine ⟨fun given isGiven _ other isOther => ?_, fun absent => ?_⟩
            · rw [upperValue, Option.some.injEq] at isGiven
              rw [isOther, Option.some_or, Option.map_some, Option.some.injEq] at same
              rw [same, isGiven]
            · rw [upperValue] at absent
              cases absent
      | none =>
          rw [path] at upperValue
          rw [Option.none_or, Option.map_none, Option.none_or, ← besideValue]
          constructor
          · exact fun layered => layered.lowerSeen upperValue
          · intro same
            refine ⟨fun given isGiven => ?_, fun _ => same⟩
            rw [upperValue] at isGiven
            cases isGiven

/--
A name has the first of four values: that of the entry under the name itself, the shared one under
the name itself unless the entry has that key, that of the entry under the dotted key, the shared
one under the dotted key unless the entry has its first key.  They are picked out exactly if each of
them has a text.  A name has the value of the entry if there is one, and else the shared one,
exactly if it is layered.
-/
theorem extractValues_effectiveValues
    (fragment : Fragment)
    (entry : Entry)
    (shared : Table)
    (distinct : entry.values.Distinct) :
    ((∃ values, fragment.extractValues (entry.effectiveValues shared) = .ok values) ↔
        ∀ name ∈ fragment.valueNames, ∀ value,
          fragment.valueOver? entry.values shared name = some value →
            value.payloadText?.isSome) ∧
      ∀ values, fragment.extractValues (entry.effectiveValues shared) = .ok values →
        (∀ name ∈ fragment.valueNames,
          values.lookup name =
            (fragment.valueOver? entry.values shared name).bind Value.payloadText?) ∧
          ∀ own base,
            fragment.extractValues entry.values = .ok own →
              fragment.extractValues shared = .ok base →
                ((∀ name, values.lookup name = (own.over base).lookup name) ↔
                  ∀ name ∈ fragment.valueNames, fragment.Layered entry.values shared name) := by
  have overShared : ∀ name, fragment.valueIn? (entry.effectiveValues shared) name = _ :=
    fragment.valueIn?_update distinct shared
  refine ⟨?_, fun values extracted => ⟨fun name isName => ?_, fun own base isOwn isBase => ?_⟩⟩
  · rw [exists_extractValues_iff, Spelled]
    simp only [overShared]
  · rw [lookup_of_extractValues extracted isName, overShared]
  · refine forall_congr' fun name => ?_
    have found := map_lookup_of_extractValues extracted name
    have foundOwn := map_lookup_of_extractValues isOwn name
    have foundBase := map_lookup_of_extractValues isBase name
    rw [PayloadValues.lookup_over (nodup_of_extractValues isOwn),
      ← (Option.map_injective fun _ _ => Option.some.inj).eq_iff, Option.map_or, found, foundOwn,
      foundBase]
    by_cases isName : name ∈ fragment.valueNames
    · simp only [isName, ↓reduceIte, true_implies, layered_iff, overShared]
    · simp [isName]

/-- The key of the service in the settings of an application on iOS. -/
def iosKey (key : String) : Table :=
  [("ios", .table [("config", .table [("googleMapsApiKey", .string key)])])]

/-- An entry for the initialiser call of a Swift application, with values of its own. -/
def swiftEntry (values : Table) : Entry :=
  ⟨["AppDelegate.swift"], .registered "google-maps-swift-init", values⟩

/-- Shared values with the key of the service and a bundle. -/
def bundledKey (key : String) : Table :=
  iosKey key ++ [("bundle", .string "app")]

/-- An entry with the key of the service, over shared values with another key and a bundle. -/
theorem extractValues_effectiveValues_iosKey :
    Table.Distinct (swiftEntry (iosKey "own")).values ∧
      ∃ values own base,
        Catalogue.swiftInit.extractValues
            ((swiftEntry (iosKey "own")).effectiveValues (bundledKey "shared")) = .ok values ∧
          Catalogue.swiftInit.extractValues (iosKey "own") = .ok own ∧
          Catalogue.swiftInit.extractValues (bundledKey "shared") = .ok base ∧
          ∀ name, values.lookup name = (own.over base).lookup name := by
  have distinct : Table.Distinct (swiftEntry (iosKey "own")).values := by
    decide
  have names : Catalogue.swiftInit.valueNames = ["api_key"] := by
    decide +kernel
  have layered :
      Catalogue.swiftInit.Layered (iosKey "own") (bundledKey "shared") "api_key" := by
    rw [layered_iff]
    decide +kernel
  have extracted :
      Catalogue.swiftInit.extractValues
          ((swiftEntry (iosKey "own")).effectiveValues (bundledKey "shared")) =
        .ok [("api_key", "own")] := by
    decide +kernel
  have isOwn :
      Catalogue.swiftInit.extractValues (iosKey "own") = .ok [("api_key", "own")] := by
    decide +kernel
  have isBase :
      Catalogue.swiftInit.extractValues (bundledKey "shared") = .ok [("api_key", "shared")] := by
    decide +kernel
  obtain ⟨_, lookups⟩ := extractValues_effectiveValues Catalogue.swiftInit _ _ distinct
  obtain ⟨_, layered_iff⟩ := lookups _ extracted
  refine ⟨distinct, _, _, _, extracted, isOwn, isBase, ?_⟩
  refine (layered_iff _ _ isOwn isBase).mpr fun name isName => ?_
  rw [names, List.mem_singleton] at isName
  exact isName ▸ layered

/--
Two entries whose values are not layered: a shared key under its flat name comes before the own one
under the dotted key, and own settings for iOS hide the shared key.
-/
theorem extractValues_effectiveValues_not_layered :
    (∃ values own base,
      Catalogue.swiftInit.extractValues
            ((swiftEntry (iosKey "own")).effectiveValues [("api_key", .string "shared")]) =
          .ok values ∧
        Catalogue.swiftInit.extractValues (iosKey "own") = .ok own ∧
        Catalogue.swiftInit.extractValues [("api_key", .string "shared")] = .ok base ∧
        values.lookup "api_key" = some ↑"shared" ∧
        (own.over base).lookup "api_key" = some ↑"own") ∧
      ∃ values own base,
        Catalogue.swiftInit.extractValues
              ((swiftEntry [("ios", .table [("bundle", .string "app")])]).effectiveValues
                (iosKey "shared")) =
            .ok values ∧
          Catalogue.swiftInit.extractValues [("ios", .table [("bundle", .string "app")])] =
            .ok own ∧
          Catalogue.swiftInit.extractValues (iosKey "shared") = .ok base ∧
          values.lookup "api_key" = none ∧
          (own.over base).lookup "api_key" = some ↑"shared" :=
  ⟨⟨[("api_key", "shared")], [("api_key", "own")], [("api_key", "shared")], by decide +kernel⟩,
    [], [], [("api_key", "shared")], by decide +kernel⟩

end Fragment

end BlockSync
