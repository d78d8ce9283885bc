import BlockSync.Config.Entry
import BlockSync.Proofs.Value.Keyed

namespace BlockSync

/-!
# Values by name

Values that are given stand in front of defaults and take none of them away.  A fragment picks out
of a configuration one value for each of its names: that under the name itself, or else that under
its dotted key.
-/

namespace PayloadValues

/-- Storing a value puts it under its name. -/
theorem isPut_insert : IsPut insert where
  nil _ _ :=
    rfl
  cons _ _ _ _ _ :=
    rfl

/-- A value that is given comes before the default. -/
theorem lookup_over
    {values : PayloadValues}
    (distinct : (values.map (·.1)).Nodup)
    (defaults : PayloadValues)
    (name : String) :
    (values.over defaults).lookup name = (values.lookup name).or (defaults.lookup name) :=
  isPut_insert.lookup_foldl distinct defaults name

/-- A name with a default has a value. -/
theorem isSome_lookup_over
    {name : String}
    {defaults : PayloadValues}
    (values : PayloadValues)
    (hasDefault : (defaults.lookup name).isSome) :
    ((values.over defaults).lookup name).isSome := by
  -- The values are stored one after another, so the defaults are a different table in each step.
  induction values generalizing defaults with
  | nil =>
      exact hasDefault
  | cons item rest inductionHypothesis =>
      obtain ⟨other, value⟩ := item
      apply inductionHypothesis
      rw [isPut_insert.lookup_eq_ite]
      split
      · rfl
      · exact hasDefault

end PayloadValues

namespace Fragment

/-- The value that a configuration gives a name under its dotted key. -/
def pathValue? (fragment : Fragment) (config : Table) (name : String) : Option Value :=
  (fragment.valueKeys.lookup name).bind config.lookup?

/-- The value under the name itself comes before the one under its dotted key. -/
theorem valueIn?_eq
    (fragment : Fragment)
    (config : Table)
    (name : String) :
    fragment.valueIn? config name =
      (Entry.present? config name).or (fragment.pathValue? config name) := by
  rw [valueIn?, Entry.present?, pathValue?]
  cases config.get? name with
  | none =>
      rfl
  | some value =>
      cases null : value.isNull <;> simp [Option.filter, null]

/-- The values that a fragment picks out are found under their names. -/
theorem lookup_valuesIn
    (fragment : Fragment)
    (config : Table)
    (name : String) :
    (fragment.valuesIn config).lookup name =
      if name ∈ fragment.valueNames then fragment.valueIn? config name else none :=
  lookup_filterMap_key (fragment.valueIn? config) fragment.valueNames name

/-- No name is given two values. -/
theorem nodup_valuesIn
    (fragment : Fragment)
    (config : Table) :
    ((fragment.valuesIn config).map (·.1)).Nodup := by
  rw [valuesIn, map_fst_filterMap_key]
  exact (nodup_eraseDups _).filter _

/-- Values have some texts exactly if each of them has its text. -/
theorem textsOf_eq_ok_iff
    {items : List (String × Value)}
    {texts : PayloadValues} :
    textsOf items = .ok texts ↔
      (items.map fun item => (item.1, item.2.payloadText?)) =
        texts.map fun item => (item.1, some item.2) := by
  induction items generalizing texts with
  | nil =>
      cases texts <;> simp [textsOf]
  | cons item others inductionHypothesis =>
      obtain ⟨name, value⟩ := item
      rw [textsOf]
      cases isText : value.payloadText? with
      | none =>
          cases texts <;> simp [isText]
      | some text =>
          cases texts with
          | nil =>
              cases textsOf others <;> simp [Except.map]
          | cons first rest =>
              obtain ⟨other, otherText⟩ := first
              have later := @inductionHypothesis rest
              cases others : textsOf others with
              | error error =>
                  rw [others] at later
                  simp [Except.map, isText, ← later]
              | ok texts =>
                  rw [others, Except.ok.injEq] at later
                  simp [Except.map, isText, ← later, and_assoc]

/-- Values have texts exactly if each of them has one. -/
theorem exists_textsOf_iff
    {items : List (String × Value)} :
    (∃ texts, textsOf items = .ok texts) ↔ ∀ item ∈ items, item.2.payloadText?.isSome := by
  induction items with
  | nil =>
      simp [textsOf]
  | cons item others inductionHypothesis =>
      obtain ⟨name, value⟩ := item
      rw [List.forall_mem_cons, ← inductionHypothesis, textsOf]
      cases value.payloadText? with
      | none =>
          simp
      | some text =>
          cases textsOf others <;> simp [Except.map]

/-- Values that have no texts have too many digits. -/
theorem textsOf_eq_error
    {items : List (String × Value)}
    {error : FragmentError}
    (failed : textsOf items = .error error) :
    error = .tooManyDigits := by
  induction items with
  | nil =>
      cases failed
  | cons item others inductionHypothesis =>
      obtain ⟨name, value⟩ := item
      rw [textsOf] at failed
      split at failed
      · cases failed
        rfl
      · cases later : textsOf others with
        | error other =>
            rw [later] at failed inductionHypothesis
            cases failed
            exact inductionHypothesis rfl
        | ok texts =>
            rw [later] at failed
            cases failed

section Extracted

variable {fragment : Fragment} {config : Table} {values : PayloadValues}

/-- The texts of the values that a fragment picks out are found under their names. -/
theorem map_lookup_of_extractValues
    (extracted : fragment.extractValues config = .ok values)
    (name : String) :
    (values.lookup name).map some =
      if name ∈ fragment.valueNames then (fragment.valueIn? config name).map Value.payloadText?
      else none := by
  rw [← lookup_map_value, ← textsOf_eq_ok_iff.mp extracted, lookup_map_value, lookup_valuesIn]
  split <;> rfl

/-- A name has the text of the value that a fragment picks out for it. -/
theorem lookup_of_extractValues
    (extracted : fragment.extractValues config = .ok values)
    {name : String}
    (isName : name ∈ fragment.valueNames) :
    values.lookup name = (fragment.valueIn? config name).bind Value.payloadText? := by
  have found := map_lookup_of_extractValues extracted name
  rw [if_pos isName] at found
  revert found
  cases values.lookup name <;> cases fragment.valueIn? config name <;> simp [eq_comm]

/-- No name is given two texts. -/
theorem nodup_of_extractValues
    (extracted : fragment.extractValues config = .ok values) :
    (values.map (·.1)).Nodup := by
  have names := congrArg (List.map (·.1)) (textsOf_eq_ok_iff.mp extracted)
  simp only [List.map_map, Function.comp_def] at names
  rw [← names]
  exact fragment.nodup_valuesIn config

/-- Whether every value that a fragment picks out of a configuration has a text. -/
def Spelled (fragment : Fragment) (config : Table) : Prop :=
  ∀ name ∈ fragment.valueNames, ∀ value, fragment.valueIn? config name = some value →
    value.payloadText?.isSome

/-- A fragment picks its values out exactly if each of them has a text. -/
theorem exists_extractValues_iff :
    (∃ values, fragment.extractValues config = .ok values) ↔ fragment.Spelled config := by
  rw [extractValues, exists_textsOf_iff, Spelled]
  constructor
  · intro spelled name isName value found
    have member : (name, value) ∈ fragment.valuesIn config := by
      rw [← lookup_eq_some_iff_mem (fragment.nodup_valuesIn config), lookup_valuesIn,
        if_pos isName, found]
    exact spelled _ member
  · rintro spelled ⟨name, value⟩ member
    rw [← lookup_eq_some_iff_mem (fragment.nodup_valuesIn config), lookup_valuesIn] at member
    split at member
    · next isName =>
      exact spelled name isName value member
    · cases member

end Extracted

end Fragment

end BlockSync
