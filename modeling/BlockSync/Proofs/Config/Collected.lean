import BlockSync.Config.Load
import BlockSync.Proofs.Config.Sequence
import BlockSync.Proofs.Except

namespace BlockSync

/-!
# Overrides that are collected

Overrides are collected by key before they are set: a key that is given again keeps its first place
and takes its last value.  This makes no difference unless a key that overlaps with it is given in
between, in which case a later override can lose against an earlier one.
-/

namespace Overrides

variable {given : List (String × String)} {item key value : String}

/-- Whether an item gives a value to a key: they stand around the first equals sign. -/
def Gives (item key value : String) : Prop :=
  ∃ name,
    item.toList = name ++ '=' :: value.toList ∧ '=' ∉ name ∧
      key.toList = Text.trim name ∧ key ≠ ""

/-- Overrides by key, from keys and values in order. -/
def collected (given : List (String × String)) : Overrides :=
  given.foldl (fun overrides (key, value) => overrides.put key value) []

/-- Putting an override puts its value under its key. -/
theorem isPut_put : IsPut put where
  nil _ _ :=
    rfl
  cons _ _ _ _ _ :=
    rfl

/-- An item that gives a value to a key is read as both. -/
theorem Gives.parseItem_eq (gives : Gives item key value) : parseItem item = .ok (key, value) := by
  obtain ⟨name, shape, noSign, isKey, nonempty⟩ := gives
  have isName : ∀ c ∈ name, decide (c ≠ '=') = true := by
    intro c member
    rw [decide_eq_true_iff]
    rintro rfl
    exact noSign member
  have before : item.toList.takeWhile (· ≠ '=') = name := by
    rw [shape, List.takeWhile_append_of_pos isName]
    simp
  have behind : item.toList.dropWhile (· ≠ '=') = '=' :: value.toList := by
    rw [shape, List.dropWhile_append_of_pos isName]
    simp
  have isWord : key.toList.isEmpty = false := by
    simpa using nonempty
  simp only [parseItem, before, behind, ← isKey, isWord, String.ofList_toList,
    Bool.false_eq_true, ↓reduceIte]

/-- Items that give values to keys are collected. -/
theorem parse_eq
    {items : List String}
    (gives : List.Forall₂ (fun item pair => Gives item pair.1 pair.2) items given) :
    parse items = .ok (collected given) := by
  rw [parse, collected]
  generalize ([] : Overrides) = start
  induction gives generalizing start with
  | nil =>
      rfl
  | @cons item pair items given first others inductionHypothesis =>
      rw [List.foldlM_cons, first.parseItem_eq]
      exact inductionHypothesis (put pair.1 pair.2 start)

/-- One more value is put under its key last. -/
theorem collected_concat (given : List (String × String)) (key value : String) :
    collected (given ++ [(key, value)]) = (collected given).put key value := by
  simp [collected]

/-- A key is looked up among collected overrides by its last value. -/
theorem lookup_collected
    (given : List (String × String))
    (key : String) :
    (collected given).lookup key = given.reverse.lookup key := by
  induction given using List.reverseRecOn with
  | nil =>
      rfl
  | append_singleton others item inductionHypothesis =>
      rw [collected_concat, isPut_put.lookup_eq_ite, inductionHypothesis, List.reverse_concat,
        lookup_cons_eq_ite]

/-- Collected overrides have the keys in the order in which they were first given. -/
theorem keys_collected (given : List (String × String)) :
    (collected given).map (·.1) = (given.map (·.1)).eraseDups := by
  induction given using List.reverseRecOn with
  | nil =>
      rfl
  | append_singleton others item inductionHypothesis =>
      rw [collected_concat, isPut_put.map_fst, inductionHypothesis, List.map_append,
        List.map_singleton, List.eraseDups_append]
      by_cases member : item.1 ∈ others.map (·.1)
      · have nothingNew : [item.1].removeAll (others.map (·.1)) = [] := by
          simpa [List.removeAll] using member
        rw [if_pos (List.mem_eraseDups.mpr member), nothingNew, List.eraseDups_nil,
          List.append_nil]
      · have isNew : [item.1].removeAll (others.map (·.1)) = [item.1] := by
          simpa [List.removeAll] using member
        rw [if_neg fun isOld => member (List.mem_eraseDups.mp isOld), isNew]
        rfl

/-- No key of collected overrides is used twice. -/
theorem nodup_keys_collected (given : List (String × String)) :
    ((collected given).map (·.1)).Nodup :=
  keys_collected given ▸ nodup_eraseDups _

/-- Collected overrides have the same last values as what was given. -/
theorem lookup_reverse_collected
    (given : List (String × String))
    (key : String) :
    (collected given).reverse.lookup key = given.reverse.lookup key := by
  have distinct := nodup_keys_collected given
  have reversed : ((collected given).reverse.map (·.1)).Nodup := by
    rw [List.map_reverse, List.nodup_reverse]
    exact distinct
  rw [← lookup_collected given]
  ext value
  rw [lookup_eq_some_iff_mem reversed, lookup_eq_some_iff_mem distinct, List.mem_reverse]

/-- Whether no key that overlaps with another one is given between two values of that one. -/
def Unbroken (keys : List String) : Prop :=
  ∀ key other, [key, other, key].Sublist keys → ¬ Table.Overlaps other key

/-- Whether keys are unbroken can be computed. -/
instance (keys : List String) : Decidable (Unbroken keys) :=
  decidable_of_iff
    (∀ key ∈ keys, ∀ other ∈ keys,
      [key, other, key].Sublist keys → ¬ Table.Overlaps other key)
    ⟨fun unbroken key other occurs =>
      unbroken key (occurs.subset (by simp)) other (occurs.subset (by simp)) occurs,
      fun unbroken key _ other _ => unbroken key other⟩

/-- Keys stay unbroken if some are left out. -/
theorem Unbroken.of_sublist
    {fewer keys : List String}
    (unbroken : Unbroken keys)
    (sublist : fewer.Sublist keys) :
    Unbroken fewer :=
  fun key other occurs => unbroken key other (occurs.trans sublist)

/-- To put a value among overrides is to set it last, if no later key overlaps with its own one. -/
private theorem assign_put
    {overrides : Overrides}
    (distinct : (overrides.map (·.1)).Nodup)
    (apart : ∀ other, [key, other].Sublist (overrides.map (·.1)) → ¬ Table.Overlaps other key)
    (table : Table)
    (value : String) :
    table.assign (overrides.put key value) = (table.assign overrides).set key (.string value) := by
  induction overrides generalizing table with
  | nil =>
      rfl
  | cons first rest inductionHypothesis =>
      obtain ⟨stored, old⟩ := first
      rw [List.map_cons, List.nodup_cons] at distinct
      rw [put]
      by_cases same : stored = key
      · subst same
        have laterApart : ∀ other ∈ rest.map (·.1), ¬ Table.Meets other stored := by
          intro other member meets
          have different : other ≠ stored := by
            rintro rfl
            exact distinct.1 member
          refine apart other ?_ ⟨different, meets⟩
          exact (List.singleton_sublist.mpr member).cons_cons stored
        have present : (table.set stored (.string old)).lookup? stored ≠ none := by
          rw [Table.lookup?_set_self rfl]
          exact Option.some_ne_none _
        have replaced :
            (table.set stored (.string old)).set stored (.string value) =
              table.set stored (.string value) :=
          Table.insertAt_insertAt_self (Table.keyParts_ne_nil stored) table _ _
        rw [if_pos rfl]
        exact
          ((Table.set_assign_comm present laterApart value).trans
            (congrArg (Table.assign · rest) replaced)).symm
      · rw [if_neg same]
        exact
          inductionHypothesis distinct.2
            (fun other occurs => apart other (occurs.cons stored))
            (table.set stored (.string old))

/-- To collect overrides behind others is to set them last, if the keys are unbroken. -/
private theorem assign_foldl_put
    (overrides : Overrides)
    (distinct : (overrides.map (·.1)).Nodup)
    (unbroken : Unbroken (overrides.map (·.1) ++ given.map (·.1)))
    (table : Table) :
    table.assign (given.foldl (fun overrides (key, value) => put key value overrides) overrides) =
      (table.assign overrides).assign given := by
  induction given generalizing overrides with
  | nil =>
      rfl
  | cons item others inductionHypothesis =>
      obtain ⟨key, value⟩ := item
      have keys := isPut_put.map_fst key value overrides
      have sublist :
          ((overrides.put key value).map (·.1)).Sublist (overrides.map (·.1) ++ [key]) := by
        rw [keys]
        split
        · exact List.sublist_append_left _ _
        · exact List.Sublist.refl _
      have distinctLater : ((overrides.put key value).map (·.1)).Nodup := by
        rw [keys]
        split
        · exact distinct
        · next isNew =>
          exact distinct.append (List.nodup_singleton key) (List.disjoint_singleton.mpr isNew)
      have unbrokenLater :
          Unbroken ((overrides.put key value).map (·.1) ++ others.map (·.1)) := by
        refine unbroken.of_sublist ?_
        simpa using sublist.append_right (others.map (·.1))
      have apart :
          ∀ other, [key, other].Sublist (overrides.map (·.1)) → ¬ Table.Overlaps other key := by
        intro other occurs
        refine unbroken key other ?_
        exact occurs.append (List.singleton_sublist.mpr (by simp))
      rw [List.foldl_cons, inductionHypothesis _ distinctLater unbrokenLater,
        assign_put distinct apart]
      rfl

/-- Overrides can be collected before they are set if their keys are unbroken. -/
theorem assign_collected
    (unbroken : Unbroken (given.map (·.1)))
    (table : Table) :
    table.assign (collected given) = table.assign given :=
  assign_foldl_put [] List.nodup_nil unbroken table

end Overrides

/-- Setting overrides changes the shared values alone. -/
theorem Config.values_setAll
    (config : Config)
    (given : List (String × String)) :
    (config.setAll (Overrides.table given)).values = Table.assign config.values given := by
  induction given generalizing config with
  | nil =>
      rfl
  | cons item others inductionHypothesis =>
      exact inductionHypothesis (config.set item.1 (.string item.2))

/-- Overrides are set on top of what is loaded without them, if that succeeds. -/
theorem loadConfig_table
    (tree : FileNode)
    (here root : FilePath)
    (sources : List FilePath)
    (overrides : Overrides) :
    let base := loadConfig tree here root sources []
    let loaded := loadConfig tree here root sources overrides.table
    loaded.failure = base.failure ∧
      (base.failure = none → loaded.config.values = Table.assign base.config.values overrides) := by
  rw [loadConfig, loadConfig]
  cases tree.resolve (here.join root) with
  | error fault =>
      exact ⟨rfl, nofun⟩
  | ok root =>
      dsimp only
      generalize (Loading.start root).addSources tree here sources = loading
      rw [Loading.finish, Loading.finish]
      by_cases failed : loading.failure.isSome = true
      · rw [if_pos failed, if_pos failed]
        refine ⟨rfl, fun succeeded => ?_⟩
        rw [succeeded] at failed
        cases failed
      · rw [if_neg failed, if_neg failed]
        exact ⟨rfl, fun _ => Config.values_setAll loading.config overrides⟩

/--
Items that give values to keys are collected, and a configuration with them is loaded exactly if it
is loaded without them.  The shared values are those of the base with the items set in order if the
keys are unbroken; and they agree with them exactly if the same keys last when only the first place
of every key counts.
-/
theorem loadConfig_overrides
    (tree : FileNode)
    (here root : FilePath)
    (sources : List FilePath)
    {items : List String}
    {given : List (String × String)}
    (gives : List.Forall₂ (fun item pair => Overrides.Gives item pair.1 pair.2) items given) :
    ∃ overrides,
      Overrides.parse items = .ok overrides ∧
        let base := loadConfig tree here root sources []
        let loaded := loadConfig tree here root sources overrides.table
        let inOrder := (base.config.setAll (Overrides.table given)).values
        let keys := given.map (·.1)
        loaded.failure = base.failure ∧
          (base.failure = none →
            (Overrides.Unbroken keys → loaded.config.values = inOrder) ∧
            (Table.Agrees loaded.config.values inOrder ↔
              ∀ key, Table.Lasts keys.eraseDups key ↔ Table.Lasts keys key)) := by
  refine ⟨_, Overrides.parse_eq gives, ?_⟩
  intro base loaded inOrder keys
  obtain ⟨sameFailure, onTop⟩ :=
    loadConfig_table tree here root sources (Overrides.collected given)
  have inOrder_eq : inOrder = Table.assign base.config.values given :=
    Config.values_setAll base.config given
  refine ⟨sameFailure, fun succeeded => ?_⟩
  rw [show loaded.config.values = _ from onTop succeeded, inOrder_eq]
  constructor
  · exact fun unbroken => Overrides.assign_collected unbroken base.config.values
  · rw [Table.agrees_assign_iff base.config.values (Overrides.lookup_reverse_collected given),
      Overrides.keys_collected]

/-- The configuration of a project without files, under some overrides. -/
def emptyProject (overrides : Table) : Loading :=
  loadConfig (.directory []) ⟨"/", []⟩ ⟨"", []⟩ [] overrides

/-- A dotted key with blank characters around it that is given again, and a sign in a value. -/
theorem loadConfig_overrides_repeated :
    ∃ overrides,
      Overrides.parse [" a.k =1", "b=x=y", "a.k=2"] = .ok overrides ∧
        (emptyProject overrides.table).config.values =
          ((emptyProject []).config.setAll
            (Overrides.table [("a.k", "1"), ("b", "x=y"), ("a.k", "2")])).values := by
  have gives :
      List.Forall₂ (fun item pair => Overrides.Gives item pair.1 pair.2)
        [" a.k =1", "b=x=y", "a.k=2"] [("a.k", "1"), ("b", "x=y"), ("a.k", "2")] := by
    refine .cons ⟨" a.k ".toList, ?_⟩ (.cons ⟨"b".toList, ?_⟩ (.cons ⟨"a.k".toList, ?_⟩ .nil))
    all_goals decide
  obtain ⟨overrides, parsed, _, loads⟩ :=
    loadConfig_overrides (.directory []) ⟨"/", []⟩ ⟨"", []⟩ [] gives
  exact ⟨overrides, parsed, (loads rfl).1 (by decide)⟩

/-- The last value of a key is lost against a longer key that is given between two values of it. -/
theorem loadConfig_overrides_lost :
    ∃ overrides,
      Overrides.parse ["a=1", "a.b=2", "a=3"] = .ok overrides ∧
        Table.lookup? (emptyProject overrides.table).config.values "a" =
          some (.table [("b", .string "2")]) ∧
        Table.lookup?
            ((emptyProject []).config.setAll
              (Overrides.table [("a", "1"), ("a.b", "2"), ("a", "3")])).values "a" =
          some (.string "3") :=
  ⟨_, rfl, rfl, rfl⟩

end BlockSync
