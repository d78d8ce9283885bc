import BlockSync.Config.Basic
import BlockSync.Proofs.Config.Entry

namespace BlockSync

/-!
# Configurations from sources

A configuration is built up from sources, each of which has to be accepted.  So each of its entries
was accepted, and a fragment that is built for it has a valid tag and a payload without faults.
-/

/-- Whether an entry was accepted in some place of some source. -/
def Entry.IsAccepted (entry : Entry) : Prop :=
  ∃ value index source, Entry.read value index source = .ok entry

namespace Layer

/-- The entries that are read before the first refused one are accepted. -/
theorem isAccepted_of_mem_readEntries
    (source : Option FilePath)
    {entry : Entry} :
    ∀ (index : Nat) (items : List Value),
      entry ∈ (readEntries source index items).1 → entry.IsAccepted := by
  intro index items member
  induction items generalizing index with
  | nil =>
      cases member
  | cons value others inductionHypothesis =>
      rw [readEntries] at member
      cases isRead : Entry.read value index source with
      | error error =>
          rw [isRead] at member
          cases member
      | ok first =>
          rw [isRead] at member
          rcases List.mem_cons.mp member with isFirst | isLater
          · exact ⟨value, index, source, isFirst ▸ isRead⟩
          · exact inductionHypothesis (index + 1) isLater

/-- The entries of a layer are accepted. -/
theorem isAccepted_of_mem_entries
    {table : Table}
    {source : Option FilePath}
    {entry : Entry}
    (member : entry ∈ (read table source).1.entries) :
    entry.IsAccepted := by
  rw [read] at member
  split at member
  · cases member
  · split at member
    · split at member
      · exact isAccepted_of_mem_readEntries source 0 _ member
      · cases member
    · cases member

end Layer

namespace Config

/-- Adds a source to a configuration, which must be accepted as a whole. -/
def mergeWhole (config : Config) (source : Table × Option FilePath) : Except LoadError Config :=
  match config.merge source.1 source.2 with
  | (merged, none) => .ok merged
  | (_, some error) => .error error

/-- The frozen configuration that accepted sources make up, on top of the defaults. -/
def ofSources
    (root : FilePath)
    (sources : List (Table × Option FilePath)) :
    Except LoadError Config := do
  let config ← sources.foldlM mergeWhole (.initial root)
  return config.frozen

/-- A source that is accepted as a whole adds its entries. -/
theorem entries_mergeWhole
    {config merged : Config}
    {source : Table × Option FilePath}
    (added : config.mergeWhole source = .ok merged) :
    merged.entries = config.entries ++ (Layer.read source.1 source.2).1.entries := by
  rw [mergeWhole] at added
  split at added
  · next same =>
    cases added
    rw [← congrArg (fun outcome => outcome.1.entries) same]
    rfl
  · cases added

/-- Every entry of a configuration from accepted sources is accepted. -/
theorem isAccepted_of_ofSources
    {root : FilePath}
    {sources : List (Table × Option FilePath)}
    {config : Config}
    (accepted : ofSources root sources = .ok config) :
    ∀ entry ∈ config.entries, entry.IsAccepted := by
  obtain ⟨unfrozen, folded, same⟩ := Except.bind_eq_ok_iff.mp accepted
  cases same
  have preserved : ∀ (config : Config) source merged,
      (∀ entry ∈ config.entries, entry.IsAccepted) →
        config.mergeWhole source = .ok merged →
        ∀ entry ∈ merged.entries, entry.IsAccepted := by
    intro config source merged accepted added entry member
    rw [entries_mergeWhole added] at member
    rcases List.mem_append.mp member with isOld | isNew
    · exact accepted entry isOld
    · exact Layer.isAccepted_of_mem_entries isNew
  have starts : ∀ entry ∈ (Settings.initial root : Config).entries, entry.IsAccepted :=
    fun _ member => nomatch member
  have inUnfrozen := Except.foldlM_invariant preserved starts folded
  exact inUnfrozen

end Config

/-- Every fragment that is built for an accepted entry is sturdy. -/
theorem Entry.IsAccepted.exists_sturdy
    {entry : Entry}
    {fragment : Fragment}
    (accepted : entry.IsAccepted)
    (built : entry.build .shipped = .ok fragment) :
    ∃ template, fragment.Sturdy template := by
  obtain ⟨value, index, source, isRead⟩ := accepted
  cases value with
  | table table =>
      rcases Entry.fragment_of_readTable (Except.mapError_eq_ok_iff.mp isRead) with
        ⟨name, _, _, isRegistered⟩ | ⟨description, _, isDescription, isInline⟩
      · rw [Entry.build_of_registered isRegistered] at built
        split at built
        · cases built
        · rw [Except.mapError_eq_ok_iff, Registry.get] at built
          split at built
          · next found =>
            cases built
            have member := List.mem_of_find?_eq_some found
            exact
              (Catalogue.renderable_of_mem _ member).exists_sturdy
                (Catalogue.sound_of_mem _ member).isTagName
          · cases built
      · rw [Entry.build_of_inline isInline] at built
        cases built
        exact ⟨_, Entry.sturdy_of_readInline isDescription⟩
  | _ =>
      cases isRead

end BlockSync
