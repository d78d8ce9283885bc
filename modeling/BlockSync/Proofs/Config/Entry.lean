import BlockSync.Proofs.Fragment.Failure

namespace BlockSync.Entry

/-!
# Entries that are accepted

An entry that is accepted names its fragment or describes it.  A fragment that is described has a
valid tag and a payload without faults, because its description was checked for that, so it can
always be built and taken out.  What goes wrong when it is brought up to date is reported, unless
a value brings a surrogate into its payload.
-/

variable {table : Table} {index : Nat} {entry : Entry} {description : InlineFragment}

/-- A text that is read from a table is there. -/
theorem get?_of_textAt
    {key text : String}
    (read : textAt table index key = .ok text) :
    table.get? key = some (.string text) := by
  rw [textAt] at read
  split at read
  · next found =>
    split at read
    · cases read
    · cases read
      exact found
  · cases read

/-- The payload and the required names of a description that is accepted. -/
theorem payload_of_readInline
    (read : readInline table index = .ok description) :
    ∃ source,
      table.get? "payload" = some (.string source) ∧
        description.payload = .parse source ∧
        description.payload.isValid = true ∧
        requiredAt table index = .ok description.required := by
  simp only [readInline, Except.bind_eq_ok_iff, Except.mapError_eq_ok_iff] at read
  obtain ⟨_, _, _, _, source, isSource, _, _, read⟩ := read
  split at read
  · cases read
  · next faultless =>
    simp only [Except.bind_eq_ok_iff, Except.mapError_eq_ok_iff] at read
    obtain ⟨_, _, _, _, _, _, required, isRequired, _, _, _, _, _, _, same⟩ := read
    cases same
    exact ⟨source, get?_of_textAt isSource, rfl, by simpa using faultless, isRequired⟩

/-- An entry that is accepted names its fragment or describes it. -/
theorem fragment_of_readTable
    (read : readTable table index = .ok entry) :
    (∃ name,
        present? table "use" = some (.string name) ∧
          present? table "tag" = none ∧
          entry.fragment = .registered name) ∨
      ∃ description,
        (present? table "tag").isSome ∧
          readInline table index = .ok description ∧
          entry.fragment = .inline description := by
  rw [readTable] at read
  split at read
  · cases read
  · obtain ⟨files, _, read⟩ := Except.bind_eq_ok_iff.mp read
    dsimp only at read
    split at read
    · cases read
    · split at read
      case h_3 =>
        cases read
      -- The values play no part in where the fragment comes from.
      all_goals
        rw [pure_bind] at read
        split at read
        · next name isUse isTag =>
          cases read
          exact .inl ⟨name, isUse, isTag, rfl⟩
        · cases read
        · next isUse isTag =>
          obtain ⟨description, isDescription, same⟩ := Except.bind_eq_ok_iff.mp read
          cases same
          exact .inr ⟨description, Option.isSome_of_eq_some isTag, isDescription, rfl⟩
        · cases read

/-- The fragment that a description stands for. -/
def described (description : InlineFragment) : Fragment :=
  .ofTemplate description.tag.name description.anchor description.payload description.style
    description.required [] "" description.description

/-- An entry with a description is built whatever is registered. -/
theorem build_of_inline
    (isInline : entry.fragment = .inline description)
    (registry : Registry) :
    entry.build registry = .ok (described description) := by
  rw [build, isInline]
  rfl

/-- An entry with a name is built from what is registered, unless the name is empty. -/
theorem build_of_registered
    {name : String}
    (isRegistered : entry.fragment = .registered name)
    (registry : Registry) :
    entry.build registry =
      if name.isEmpty then .error .nothingNamed
      else (registry.get name).mapError .registry := by
  rw [build, isRegistered]

/-- Unless they are given, the names of the placeholders are the required ones. -/
theorem required_described (description : InlineFragment) :
    (described description).required =
      description.required.getD description.payload.names :=
  congrArg description.required.getD (List.filter_eq_self.mpr fun _ _ => rfl)

/-- The fragment of a description that is accepted is sturdy. -/
theorem sturdy_of_readInline
    (read : readInline table index = .ok description) :
    (described description).Sturdy description.payload := by
  obtain ⟨_, _, _, valid, _⟩ := payload_of_readInline read
  exact ⟨description.tag.isTagName, rfl, valid⟩

/-- What a fragment without defaults does with a text, given a template and values. -/
structure SyncsAsReported
    (fragment : Fragment)
    (template : Template)
    (values : PayloadValues)
    (text : String) :
    Prop where
  removes :
    ∃ result, fragment.remove text = .ok result
  reports :
    ∀ error, fragment.sync text values = .error error →
      error.IsReported ∨ ∃ cause, error = .merge (.unencodable cause)
  escapes_iff :
    ∀ cause, fragment.sync text values = .error (.merge (.unencodable cause)) ↔
      (∀ name ∈ fragment.required, ∃ value ≠ [], values.lookup name = some value) ∧
        ∃ payload, template.render values = .ok payload ∧ payload.toText = .error cause
  misses_iff :
    (∃ owner names, fragment.sync text values = .error (.missingValues owner names)) ↔
      (∀ name ∈ fragment.required, ∃ value ≠ [], values.lookup name = some value) ∧
        ∃ name ∈ template.names, values.lookup name = none
  sync_eq_remove :
    (∃ name ∈ fragment.required, ∀ value ≠ [], values.lookup name ≠ some value) →
      fragment.sync text values = fragment.remove text

/-- A sturdy fragment without defaults fails as reported. -/
theorem syncsAsReported_of_sturdy
    {fragment : Fragment}
    {template : Template}
    {values : PayloadValues}
    (sturdy : fragment.Sturdy template)
    (noDefaults : fragment.defaults = [])
    (distinct : (values.map (·.1)).Nodup)
    (text : String) :
    SyncsAsReported fragment template values text := by
  have undefaulted : ∀ name, (values.over fragment.defaults).lookup name = values.lookup name := by
    intro name
    rw [PayloadValues.lookup_over distinct, noDefaults, List.lookup_nil, Option.or_none]
  have complete_iff :
      fragment.missingValues (values.over fragment.defaults) = [] ↔
        ∀ name ∈ fragment.required, ∃ value ≠ [], values.lookup name = some value := by
    rw [Fragment.missingValues_eq_nil_iff]
    simp only [undefaulted]
  refine
    ⟨sturdy.exists_remove text, fun _ failed => sturdy.isReported_or_unencodable_of_sync failed,
      fun cause => ?_, ?_, ?_⟩
  · rw [sturdy.sync_eq_unencodable_iff, ← complete_iff]
    refine and_congr_right fun complete => exists_congr fun payload => and_congr_left' ?_
    rw [sturdy.renderPayload_eq_ok_iff complete, Template.render_congr undefaulted]
  · rw [sturdy.sync_eq_missingValues_iff, complete_iff]
    simp only [undefaulted]
  · rintro ⟨name, required, missing⟩
    refine Fragment.sync_of_missing (fun complete => ?_) text
    obtain ⟨value, notEmpty, found⟩ := complete_iff.mp complete name required
    exact missing value notEmpty found

/--
The fragment that an accepted entry describes is built, whatever is registered.  For all shared
values that have texts and every text it is taken out without fail.  It is brought up to date unless
its anchor matches no line or several, its required values are set and a placeholder of its payload
has no value, or its payload cannot be encoded.  A placeholder is not without value if the required
names are not given.
-/
theorem syncsAsReported_of_read
    {source : Option FilePath}
    (accepted : read (.table table) index source = .ok entry)
    (tagged : (present? table "tag").isSome)
    (registry : Registry) :
    ∃ fragment payload required,
      entry.build registry = .ok fragment ∧
        table.get? "payload" = some (.string payload) ∧
        requiredAt table index = .ok required ∧
        fragment.required = required.getD (Template.parse payload).names ∧
        ∀ (shared : Table) (text : String),
          fragment.Spelled (entry.effectiveValues shared) →
            ∃ values,
              fragment.extractValues (entry.effectiveValues shared) = .ok values ∧
                SyncsAsReported fragment (.parse payload) values text ∧
                (present? table "required" = none →
                  ∀ owner names,
                    fragment.sync text values ≠ .error (.missingValues owner names)) := by
  rcases fragment_of_readTable (Except.mapError_eq_ok_iff.mp accepted) with
    ⟨name, _, untagged, _⟩ | ⟨description, _, isDescription, isInline⟩
  · rw [untagged] at tagged
    cases tagged
  · obtain ⟨payload, isPayload, parsed, _, isRequired⟩ := payload_of_readInline isDescription
    have required := required_described description
    rw [parsed] at required
    refine
      ⟨_, payload, _, build_of_inline isInline registry, isPayload, isRequired, required,
        fun shared text spelled => ?_⟩
    obtain ⟨values, extracted⟩ := Fragment.exists_extractValues_iff.mpr spelled
    have reported :=
      syncsAsReported_of_sturdy (sturdy_of_readInline isDescription) rfl
        (Fragment.nodup_of_extractValues extracted) text
    rw [parsed] at reported
    refine ⟨values, extracted, reported, fun omitted owner names failed => ?_⟩
    -- If the names are not given, every placeholder is required, so none is left without a value.
    have unset : description.required = none := by
      rw [requiredAt, omitted] at isRequired
      exact (Except.ok.inj isRequired).symm
    obtain ⟨given, name, member, absent⟩ := reported.misses_iff.mp ⟨owner, names, failed⟩
    rw [required, unset] at given
    obtain ⟨value, _, found⟩ := given name member
    rw [absent] at found
    cases found

/-- A note next to the lines with an x. No value is required, but the payload has a placeholder. -/
def noteTable : Table :=
  [("tag", .string "note"), ("files", .string "a.txt"), ("anchor", .string "x"),
    ("literal", .bool true), ("payload", .string "p $v"), ("required", .list [])]

/-- The note is accepted, and has no values of its own. -/
theorem exists_noteFragment :
    ∃ entry fragment,
      read (.table noteTable) 0 none = .ok entry ∧
        entry.build .shipped = .ok fragment ∧
        fragment.extractValues (entry.effectiveValues []) = .ok [] := by
  have evaluated :
      ((read (.table noteTable) 0 none).toOption.bind fun entry =>
          (entry.build .shipped).toOption.bind fun fragment =>
            (fragment.extractValues (entry.effectiveValues [])).toOption) =
        some [] := by
    decide +kernel
  obtain ⟨entry, accepted, evaluated⟩ := Option.bind_eq_some_iff.mp evaluated
  obtain ⟨fragment, built, extracted⟩ := Option.bind_eq_some_iff.mp evaluated
  exact
    ⟨entry, fragment, Except.toOption_eq_some_iff.mp accepted,
      Except.toOption_eq_some_iff.mp built, Except.toOption_eq_some_iff.mp extracted⟩

/-- The note is accepted and fails as reported. -/
theorem syncsAsReported_of_read_note :
    ∃ entry,
      read (.table noteTable) 0 none = .ok entry ∧
        (present? noteTable "tag").isSome ∧
        ∃ fragment values,
          entry.build .shipped = .ok fragment ∧
            fragment.required = [] ∧
            fragment.Spelled (entry.effectiveValues []) ∧
            fragment.extractValues (entry.effectiveValues []) = .ok values ∧
            SyncsAsReported fragment (.parse "p $v") values "x\n" := by
  obtain ⟨entry, fragment, accepted, built, extracted⟩ := exists_noteFragment
  have tagged : (present? noteTable "tag").isSome := by
    decide
  have spelled : fragment.Spelled (entry.effectiveValues []) :=
    Fragment.exists_extractValues_iff.mp ⟨_, extracted⟩
  obtain ⟨same, payload, required, alsoBuilt, isPayload, isRequired, isSame, reported⟩ :=
    syncsAsReported_of_read accepted tagged .shipped
  cases built.symm.trans alsoBuilt
  cases isPayload
  cases isRequired
  obtain ⟨values, alsoExtracted, synced, _⟩ := reported [] "x\n" spelled
  exact
    ⟨entry, accepted, tagged, fragment, values, built, isSame, spelled, alsoExtracted, synced⟩

/-- A value that is no text of characters: a byte that was given outside of any encoding. -/
def brokenShared : Table :=
  [("v", .broken ⟨[.surrogate ⟨0x4FF, by decide⟩], rfl⟩)]

/-- The note is accepted, its value has a text, and its failure is not reported. -/
theorem syncsAsReported_of_read_broken :
    ∃ entry fragment values,
      read (.table noteTable) 0 none = .ok entry ∧
        entry.build .shipped = .ok fragment ∧
        fragment.extractValues (entry.effectiveValues brokenShared) = .ok values ∧
        fragment.sync "x\n" values = .error (.merge (.unencodable ⟨2, [0x4FF]⟩)) ∧
        ¬ FragmentError.IsReported (.merge (.unencodable ⟨2, [0x4FF]⟩)) := by
  have evaluated :
      ((read (.table noteTable) 0 none).toOption.bind fun entry =>
          (entry.build .shipped).toOption.bind fun fragment =>
            (fragment.extractValues (entry.effectiveValues brokenShared)).toOption.bind
              fun values => (fragment.sync "x\n" values).error?) =
        some (.merge (.unencodable ⟨2, [0x4FF]⟩)) := by
    decide +kernel
  obtain ⟨entry, accepted, evaluated⟩ := Option.bind_eq_some_iff.mp evaluated
  obtain ⟨fragment, built, evaluated⟩ := Option.bind_eq_some_iff.mp evaluated
  obtain ⟨values, extracted, failed⟩ := Option.bind_eq_some_iff.mp evaluated
  exact
    ⟨entry, fragment, values, Except.toOption_eq_some_iff.mp accepted,
      Except.toOption_eq_some_iff.mp built, Except.toOption_eq_some_iff.mp extracted,
      Except.error?_eq_some_iff.mp failed, fun isReported => nomatch isReported⟩

end BlockSync.Entry
