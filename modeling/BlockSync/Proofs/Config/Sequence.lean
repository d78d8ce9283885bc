import BlockSync.Proofs.Config.Override
import BlockSync.Proofs.Value.Order

namespace BlockSync.Table

/-!
# Values that are set one after another

Of several values that are set under dotted keys, the last one under a key is found there, unless a
shorter or a longer key comes later: the one puts a value in place of the table, the other a table
in place of the value.  So what is found depends on the last values and on the keys that last.
-/

variable {table : Table} {given : List (String × String)} {keys : List String}
  {key last path value : String}

/-- Sets strings under dotted keys, in order. -/
def assign (table : Table) (given : List (String × String)) : Table :=
  given.foldl (fun table (key, value) => table.set key (.string value)) table

/-- Whether one of two dotted keys starts with the other one. -/
def Meets (key other : String) : Prop :=
  StartsWith key other ∨ StartsWith other key

/-- Whether two dotted keys meet can be computed. -/
instance (key other : String) : Decidable (Meets key other) :=
  inferInstanceAs (Decidable (_ ∨ _))

/-- Whether two dotted keys cannot both have a string: they meet and are different. -/
def Overlaps (key other : String) : Prop :=
  key ≠ other ∧ Meets key other

/-- Whether two dotted keys overlap can be computed. -/
instance (key other : String) : Decidable (Overlaps key other) :=
  inferInstanceAs (Decidable (_ ∧ _))

/-- Whether a key is among keys that are given in order, and none that overlaps with it follows. -/
def Lasts (keys : List String) (key : String) : Prop :=
  ∃ earlier later, keys = earlier ++ key :: later ∧ ∀ other ∈ later, ¬ Overlaps other key

/-- No key lasts if there are none. -/
theorem not_lasts_nil (key : String) : ¬ Lasts [] key := by
  rintro ⟨earlier, later, shape, _⟩
  exact List.append_ne_nil_of_right_ne_nil earlier (List.cons_ne_nil key later) shape.symm

/-- The last key lasts, and those before it that do not overlap with it. -/
theorem lasts_concat_iff :
    Lasts (keys ++ [last]) key ↔ key = last ∨ Lasts keys key ∧ ¬ Overlaps last key := by
  constructor
  · rintro ⟨earlier, later, shape, apart⟩
    cases later using List.reverseRecOn with
    | nil =>
        have same := (List.append_inj' shape rfl).2
        exact .inl (List.singleton_injective same).symm
    | append_singleton others final =>
        rw [← List.cons_append, ← List.append_assoc] at shape
        obtain ⟨rfl, same⟩ := List.append_inj' shape rfl
        obtain rfl : last = final := by simpa using same
        refine .inr ⟨⟨earlier, others, rfl, fun other member => ?_⟩, ?_⟩
        · exact apart other (List.mem_append_left _ member)
        · exact apart last (by simp)
  · rintro (rfl | ⟨⟨earlier, later, rfl, apart⟩, alsoApart⟩)
    · exact ⟨keys, [], rfl, fun other member => nomatch member⟩
    · refine ⟨earlier, later ++ [last], by simp, fun other member => ?_⟩
      rcases List.mem_append.mp member with isLater | isLast
      · exact apart other isLater
      · rw [List.mem_singleton.mp isLast]
        exact alsoApart

/-- A key that lasts is one of those that are given. -/
theorem Lasts.mem (lasts : Lasts keys key) : key ∈ keys := by
  obtain ⟨earlier, later, rfl, _⟩ := lasts
  simp

/-- One more value is set last. -/
theorem assign_concat
    (table : Table)
    (given : List (String × String))
    (key value : String) :
    table.assign (given ++ [(key, value)]) = (table.assign given).set key (.string value) := by
  simp [assign]

/-- Under a key that lasts, its last value is found. -/
theorem lookup?_assign_of_lasts
    (table : Table)
    (lasts : Lasts (given.map (·.1)) key) :
    ∃ value, given.reverse.lookup key = some value ∧
      (table.assign given).lookup? key = some (.string value) := by
  induction given using List.reverseRecOn with
  | nil =>
      exact (not_lasts_nil key lasts).elim
  | append_singleton others item inductionHypothesis =>
      obtain ⟨last, value⟩ := item
      rw [List.map_append, List.map_singleton, lasts_concat_iff] at lasts
      rw [List.reverse_concat, lookup_cons_eq_ite, assign_concat]
      by_cases same : key = last
      · rw [if_pos same, same]
        exact ⟨value, rfl, lookup?_set_self rfl _ last⟩
      · obtain ⟨lastsBefore, apart⟩ := lasts.resolve_left same
        rw [if_neg same, lookup?_set_of_apart]
        · exact inductionHypothesis lastsBefore
        · exact fun longer => apart ⟨Ne.symm same, .inr longer⟩
        · exact fun shorter => apart ⟨Ne.symm same, .inl shorter⟩

/-- On the way to a key that lasts, a table is found. -/
theorem exists_lookup?_assign
    (table : Table)
    (lasts : Lasts (given.map (·.1)) key)
    (startsWith : StartsWith key path)
    (different : path ≠ key) :
    ∃ inner, (table.assign given).lookup? path = some (.table inner) := by
  induction given using List.reverseRecOn with
  | nil =>
      exact (not_lasts_nil key lasts).elim
  | append_singleton others item inductionHypothesis =>
      obtain ⟨last, value⟩ := item
      rw [List.map_append, List.map_singleton, lasts_concat_iff] at lasts
      rw [assign_concat]
      by_cases beyond : StartsWith last path ∧ path ≠ last
      · exact exists_lookup?_set_of_shorter beyond.1 beyond.2 _ _
      · -- A last key on the way to the path would overlap with the one that lasts.
        have other : key ≠ last := by
          rintro rfl
          exact beyond ⟨startsWith, different⟩
        obtain ⟨lastsBefore, apart⟩ := lasts.resolve_left other
        have notOnTheWay : ¬ StartsWith path last :=
          fun onTheWay => apart ⟨other.symm, .inr (onTheWay.trans startsWith)⟩
        have notBeyond : ¬ StartsWith last path := by
          intro isBeyond
          refine beyond ⟨isBeyond, ?_⟩
          rintro rfl
          exact notOnTheWay List.prefix_rfl
        rw [lookup?_set_of_apart notOnTheWay notBeyond]
        exact inductionHypothesis lastsBefore

/-- Under a key that given ones meet, nothing is found unless one that lasts starts with it. -/
theorem lookup?_assign_eq_none
    (table : Table)
    (given : List (String × String))
    (meets : ∃ key ∈ given.map (·.1), Meets key path)
    (noneLasts : ∀ key, Lasts (given.map (·.1)) key → ¬ StartsWith key path) :
    (table.assign given).lookup? path = none := by
  induction given using List.reverseRecOn with
  | nil =>
      obtain ⟨key, member, _⟩ := meets
      cases member
  | append_singleton others item inductionHypothesis =>
      obtain ⟨last, value⟩ := item
      rw [List.map_append, List.map_singleton] at meets noneLasts
      have notBeyond : ¬ StartsWith last path :=
        noneLasts last (lasts_concat_iff.mpr (.inl rfl))
      rw [assign_concat]
      by_cases onTheWay : StartsWith path last
      · refine lookup?_set_of_longer rfl onTheWay ?_ _
        rintro rfl
        exact notBeyond onTheWay
      · rw [lookup?_set_of_apart onTheWay notBeyond]
        apply inductionHypothesis
        · obtain ⟨key, member, keyMeets⟩ := meets
          rcases List.mem_append.mp member with isOther | isLast
          · exact ⟨key, isOther, keyMeets⟩
          · rw [List.mem_singleton.mp isLast] at keyMeets
            exact (keyMeets.elim notBeyond onTheWay).elim
        · intro key lasts startsWith
          refine noneLasts key (lasts_concat_iff.mpr (.inr ⟨lasts, ?_⟩)) startsWith
          rintro ⟨_, lastIsLonger | keyIsLonger⟩
          · exact notBeyond (startsWith.trans lastIsLonger)
          · -- Both lead to the key, so one of them leads to the other.
            rcases List.prefix_or_prefix_of_prefix startsWith keyIsLonger with beyond | before
            · exact notBeyond beyond
            · exact onTheWay before

/-- Under a key that no given one meets, the same is found as before. -/
theorem lookup?_assign_of_apart
    (table : Table)
    (given : List (String × String))
    (apart : ∀ key ∈ given.map (·.1), ¬ Meets key path) :
    (table.assign given).lookup? path = table.lookup? path := by
  induction given using List.reverseRecOn with
  | nil =>
      rfl
  | append_singleton others item inductionHypothesis =>
      obtain ⟨last, value⟩ := item
      rw [List.map_append, List.map_singleton] at apart
      have lastApart := apart last (by simp)
      rw [assign_concat, lookup?_set_of_apart fun longer => lastApart (.inr longer)]
      · exact inductionHypothesis fun key member => apart key (List.mem_append_left _ member)
      · exact fun shorter => lastApart (.inl shorter)

/-- Whether two lookups find the same, or a table each. -/
def FindsAlike (first second : Option Value) : Prop :=
  first = second ∨
    (∃ inner, first = some (.table inner)) ∧ ∃ inner, second = some (.table inner)

/-- Whether every dotted key leads to the same value in two tables, or to a table in either. -/
def Agrees (first second : Table) : Prop :=
  ∀ path, FindsAlike (first.lookup? path) (second.lookup? path)

/-- A key that has a last value is one of those that are given. -/
theorem mem_keys_iff_lookup :
    key ∈ given.map (·.1) ↔ given.reverse.lookup key ≠ none := by
  rw [ne_eq, List.lookup_eq_none_iff]
  simp

section Agreement

variable {first second : List (String × String)}

/-- Values that are set in two orders agree if the same keys last. -/
private theorem agrees_of_lasts
    (table : Table)
    (sameValues : ∀ key, first.reverse.lookup key = second.reverse.lookup key)
    (sameLasts : ∀ key, Lasts (first.map (·.1)) key ↔ Lasts (second.map (·.1)) key) :
    Agrees (table.assign first) (table.assign second) := by
  intro path
  have sameKeys : ∀ key, key ∈ first.map (·.1) ↔ key ∈ second.map (·.1) := by
    intro key
    rw [mem_keys_iff_lookup, mem_keys_iff_lookup, sameValues]
  by_cases lasting : ∃ key, Lasts (first.map (·.1)) key ∧ StartsWith key path
  · obtain ⟨key, lasts, startsWith⟩ := lasting
    by_cases isKey : path = key
    · subst isKey
      obtain ⟨value, isLast, found⟩ := lookup?_assign_of_lasts table lasts
      have alsoLasts := (sameLasts path).mp lasts
      obtain ⟨other, isOther, otherFound⟩ := lookup?_assign_of_lasts table alsoLasts
      rw [← sameValues, isLast] at isOther
      cases isOther
      exact .inl (found.trans otherFound.symm)
    · exact
        .inr
          ⟨exists_lookup?_assign table lasts startsWith isKey,
            exists_lookup?_assign table ((sameLasts key).mp lasts) startsWith isKey⟩
  · have noneLasts : ∀ key, Lasts (first.map (·.1)) key → ¬ StartsWith key path :=
      fun key lasts startsWith => lasting ⟨key, lasts, startsWith⟩
    by_cases meets : ∃ key ∈ first.map (·.1), Meets key path
    · refine .inl ?_
      rw [lookup?_assign_eq_none table first meets noneLasts, lookup?_assign_eq_none table second]
      · simpa only [sameKeys] using meets
      · exact fun key lasts => noneLasts key ((sameLasts key).mpr lasts)
    · refine .inl ?_
      rw [lookup?_assign_of_apart table first, lookup?_assign_of_apart table second]
      · intro key member keyMeets
        exact meets ⟨key, (sameKeys key).mpr member, keyMeets⟩
      · exact fun key member keyMeets => meets ⟨key, member, keyMeets⟩

/-- A key that lasts in one of two orders lasts in the other one if the values agree. -/
private theorem lasts_of_agrees
    (sameValues : ∀ key, first.reverse.lookup key = second.reverse.lookup key)
    (agrees : Agrees (table.assign first) (table.assign second))
    (lasts : Lasts (first.map (·.1)) key) :
    Lasts (second.map (·.1)) key := by
  obtain ⟨value, _, found⟩ := lookup?_assign_of_lasts table lasts
  have otherFound : (table.assign second).lookup? key = some (.string value) := by
    rcases agrees key with same | ⟨⟨inner, isTable⟩, _⟩
    · exact same ▸ found
    · rw [isTable] at found
      cases found
  have isKey : key ∈ second.map (·.1) := by
    rw [mem_keys_iff_lookup, ← sameValues, ← mem_keys_iff_lookup]
    exact lasts.mem
  by_contra lost
  by_cases lasting : ∃ longer, Lasts (second.map (·.1)) longer ∧ StartsWith longer key
  · obtain ⟨longer, longerLasts, startsWith⟩ := lasting
    have different : key ≠ longer := by
      rintro rfl
      exact lost longerLasts
    obtain ⟨inner, isTable⟩ := exists_lookup?_assign table longerLasts startsWith different
    rw [isTable] at otherFound
    cases otherFound
  · rw [lookup?_assign_eq_none table second ⟨key, isKey, .inl List.prefix_rfl⟩] at otherFound
    · cases otherFound
    · exact fun longer longerLasts startsWith => lasting ⟨longer, longerLasts, startsWith⟩

/-- Values that are set in two orders agree exactly if the same keys last. -/
theorem agrees_assign_iff
    (table : Table)
    (sameValues : ∀ key, first.reverse.lookup key = second.reverse.lookup key) :
    Agrees (table.assign first) (table.assign second) ↔
      ∀ key, Lasts (first.map (·.1)) key ↔ Lasts (second.map (·.1)) key := by
  constructor
  · intro agrees key
    have reversed : Agrees (table.assign second) (table.assign first) := by
      intro path
      exact (agrees path).imp Eq.symm And.symm
    exact
      ⟨lasts_of_agrees sameValues agrees,
        lasts_of_agrees (fun key => (sameValues key).symm) reversed⟩
  · exact agrees_of_lasts table sameValues

end Agreement

/-- A string that is there is replaced before or after strings are set under keys that go apart. -/
theorem set_assign_comm
    (present : table.lookup? key ≠ none)
    (apart : ∀ other ∈ given.map (·.1), ¬ Meets other key)
    (value : String) :
    (table.assign given).set key (.string value) =
      (table.set key (.string value)).assign given := by
  induction given generalizing table with
  | nil =>
      rfl
  | cons item others inductionHypothesis =>
      obtain ⟨other, stored⟩ := item
      rw [List.map_cons, List.forall_mem_cons] at apart
      have notAbove : ¬ StartsWith key other :=
        fun startsWith => apart.1 (.inr startsWith)
      have notBelow : ¬ StartsWith other key :=
        fun startsWith => apart.1 (.inl startsWith)
      have stillPresent : (table.set other (.string stored)).lookup? key ≠ none := by
        rwa [lookup?_set_of_apart notAbove notBelow]
      have swapped :
          (table.set other (.string stored)).set key (.string value) =
            (table.set key (.string value)).set other (.string stored) :=
        insertAt_comm present notAbove notBelow _ _
      exact (inductionHypothesis stillPresent apart.2).trans (congrArg (assign · others) swapped)

end BlockSync.Table
