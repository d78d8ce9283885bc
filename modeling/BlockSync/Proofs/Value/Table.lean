import BlockSync.Proofs.Value.Keyed
import BlockSync.Value.Table

namespace BlockSync.Table

/-!
# Tables over tables

Storing the entries of one table in another puts it over the other one: a key is looked up in the
upper table first.  A dotted path is followed in one of the two tables only, the upper one if that
has the first key of the path, so a table nested in the lower one is hidden as a whole.
-/

/-- Storing a value puts it under its key. -/
theorem isPut_insert : IsPut insert where
  nil _ _ :=
    rfl
  cons _ _ _ _ _ :=
    rfl

/-- Storing a value changes nothing exactly if it is under its key before. -/
theorem insert_eq_self_iff
    {table : Table}
    {key : String}
    {value : Value} :
    table.insert key value = table ↔ table.get? key = some value := by
  constructor
  · intro same
    rw [← same, get?, isPut_insert.lookup_eq_ite, if_pos rfl]
  · induction table with
    | nil =>
        intro found
        cases found
    | cons entry rest inductionHypothesis =>
        obtain ⟨other, old⟩ := entry
        intro found
        rw [get?, lookup_cons_eq_ite] at found
        rw [insert]
        by_cases same : other = key
        · rw [if_pos same.symm] at found
          rw [if_pos same, same, Option.some_inj.mp found]
        · rw [if_neg (Ne.symm same)] at found
          rw [if_neg same, inductionHypothesis found]

/-- Whether no key of a table is used twice. -/
def Distinct (table : Table) : Prop :=
  (table.map (·.1)).Nodup

/-- Whether the keys of a table are distinct can be computed. -/
instance (table : Table) : Decidable table.Distinct :=
  inferInstanceAs (Decidable (List.Nodup _))

/-- The entries of a table that another one does not hide. -/
def beside (table upper : Table) : Table :=
  table.filter fun entry => (upper.get? entry.1).isNone

/-- An entry is hidden exactly by one with the same key. -/
theorem get?_beside
    (table upper : Table)
    (key : String) :
    (table.beside upper).get? key = if (upper.get? key).isSome then none else table.get? key := by
  have kept :
      (table.beside upper).get? key =
        if (upper.get? key).isNone then table.get? key else none :=
    lookup_filter_key (fun other => (upper.get? other).isNone) table key
  rw [kept]
  cases upper.get? key <;> rfl

section Layers

variable {upper : Table}

/-- A key is looked up in the upper table, or else beside it. -/
theorem get?_update
    (distinct : upper.Distinct)
    (lower : Table)
    (key : String) :
    (lower.update upper).get? key =
      if (upper.get? key).isSome then upper.get? key else (lower.beside upper).get? key := by
  have found : (lower.update upper).get? key = (upper.get? key).or (lower.get? key) :=
    isPut_insert.lookup_foldl distinct lower key
  rw [found, get?_beside]
  cases upper.get? key <;> rfl

/-- A path is followed from the value under its first key. -/
theorem follow?_congr
    {first second : Table}
    {key : String}
    (same : first.get? key = second.get? key)
    (others : List String) :
    first.follow? (key :: others) = second.follow? (key :: others) := by
  cases others with
  | nil =>
      rw [follow?, follow?, same]
  | cons next rest =>
      rw [follow?, follow?, same] <;> simp

/-- A path whose first key is missing leads to no value. -/
theorem follow?_of_get?_eq_none
    {table : Table}
    {key : String}
    (missing : table.get? key = none)
    (others : List String) :
    table.follow? (key :: others) = none := by
  cases others with
  | nil =>
      rw [follow?, missing]
  | cons next rest =>
      rw [follow?, missing]
      simp

/-- A path is followed in the upper table, or else beside it. -/
theorem follow?_update
    (distinct : upper.Distinct)
    (lower : Table)
    (key : String)
    (others : List String) :
    (lower.update upper).follow? (key :: others) =
      (upper.follow? (key :: others)).or ((lower.beside upper).follow? (key :: others)) := by
  have found := get?_update distinct lower key
  cases has : (upper.get? key).isSome with
  | true =>
      rw [has, if_pos rfl] at found
      have hidden : (lower.beside upper).get? key = none := by
        rw [get?_beside, has, if_pos rfl]
      rw [follow?_congr found, follow?_of_get?_eq_none hidden, Option.or_none]
  | false =>
      rw [has, if_neg Bool.false_ne_true] at found
      have missing : upper.get? key = none :=
        Option.not_isSome_iff_eq_none.mp (Bool.eq_false_iff.mp has)
      rw [follow?_congr found, follow?_of_get?_eq_none missing, Option.none_or]

/-- A dotted key has parts. -/
theorem exists_keyParts_eq_cons (key : String) :
    ∃ first others, keyParts key = first :: others := by
  obtain ⟨first, others, cut⟩ :=
    List.exists_cons_of_ne_nil (Text.splitOn_ne_nil '.' key.toList)
  exact ⟨String.ofList first, others.map String.ofList, by rw [keyParts, cut, List.map_cons]⟩

/-- A dotted key is looked up in the upper table, or else beside it. -/
theorem lookup?_update
    (distinct : upper.Distinct)
    (lower : Table)
    (key : String) :
    (lower.update upper).lookup? key =
      (upper.lookup? key).or ((lower.beside upper).lookup? key) := by
  obtain ⟨first, others, cut⟩ := exists_keyParts_eq_cons key
  rw [lookup?, lookup?, lookup?, cut]
  exact follow?_update distinct lower first others

end Layers

end BlockSync.Table
