import BlockSync.Proofs.Value.Table

namespace BlockSync

/-!
# Storing under dotted keys

A value that is stored at the end of a path is found there.  Every shorter path on the way leads to
a table, no path leads on from a value that is no table, and a path that goes another way leads
where it led before, also if something that was no table had to make room.
-/

/-- The entries of a table; any other value has none. -/
def Value.entries : Value → Table
  | .table entries => entries
  | _ => []

namespace Table

/-- The entries under a key. -/
def nested (table : Table) (key : String) : Table :=
  ((table.get? key).map Value.entries).getD []

/-- A value that is stored under a key is found there, and every other one as before. -/
theorem get?_insert
    (table : Table)
    (key : String)
    (value : Value)
    (other : String) :
    (table.insert key value).get? other = if other = key then some value else table.get? other :=
  isPut_insert.lookup_eq_ite key value table other

/-- The entries of a value are found under its key, and all others as before. -/
theorem nested_insert
    (table : Table)
    (key : String)
    (value : Value)
    (other : String) :
    (table.insert key value).nested other =
      if other = key then value.entries else table.nested other := by
  rw [nested, nested, get?_insert]
  split <;> rfl

/-- No path leads anywhere from an empty table. -/
theorem follow?_nil_cons
    (key : String)
    (rest : List String) :
    follow? [] (key :: rest) = none :=
  follow?_of_get?_eq_none rfl rest

/-- A path of several keys is followed from the entries under the first of them. -/
theorem follow?_cons_cons
    (table : Table)
    (key next : String)
    (rest : List String) :
    table.follow? (key :: next :: rest) = (table.nested key).follow? (next :: rest) := by
  rw [follow?, nested]
  · cases table.get? key with
    | none =>
        exact (follow?_nil_cons next rest).symm
    | some value =>
        cases value with
        | table inner =>
            rfl
        | _ =>
            exact (follow?_nil_cons next rest).symm
  · simp

/-- A path of several keys is stored at in the entries under the first of them. -/
theorem insertAt_cons_cons
    (table : Table)
    (value : Value)
    (key next : String)
    (rest : List String) :
    table.insertAt value (key :: next :: rest) =
      table.insert key (.table ((table.nested key).insertAt value (next :: rest))) := by
  rw [insertAt, nested]
  · cases table.get? key with
    | none =>
        rfl
    | some old =>
        cases old <;> rfl
  · simp

section Stored

variable {value : Value} {path : List String}

/-- A path of several keys leads on in what is stored under the first of them. -/
theorem follow?_insertAt_cons_cons
    (table : Table)
    (value : Value)
    (key next other following : String)
    (rest others : List String) :
    (table.insertAt value (key :: next :: rest)).follow? (other :: following :: others) =
      if other = key then
        ((table.nested key).insertAt value (next :: rest)).follow? (following :: others)
      else
        table.follow? (other :: following :: others) := by
  rw [insertAt_cons_cons, follow?_cons_cons, nested_insert, follow?_cons_cons]
  split <;> rfl

/-- A value is found at the end of the path that it is stored at. -/
theorem follow?_insertAt_self
    (notNull : value.isNull = false)
    (nonempty : path ≠ [])
    (table : Table) :
    (table.insertAt value path).follow? path = some value := by
  induction path generalizing table with
  | nil =>
      exact (nonempty rfl).elim
  | cons key rest inductionHypothesis =>
      cases rest with
      | nil =>
          rw [insertAt, follow?, get?_insert, if_pos rfl]
          simp [notNull]
      | cons next rest =>
          rw [follow?_insertAt_cons_cons, if_pos rfl]
          exact inductionHypothesis (List.cons_ne_nil next rest) (table.nested key)

/-- No path leads on from a value without entries. -/
theorem follow?_insertAt_append
    (entryless : value.entries = [])
    (nonempty : path ≠ [])
    (table : Table)
    (next : String)
    (others : List String) :
    (table.insertAt value path).follow? (path ++ next :: others) = none := by
  induction path generalizing table with
  | nil =>
      exact (nonempty rfl).elim
  | cons key rest inductionHypothesis =>
      cases rest with
      | nil =>
          rw [insertAt, List.singleton_append, follow?_cons_cons, nested_insert, if_pos rfl,
            entryless]
          exact follow?_nil_cons next others
      | cons second rest =>
          rw [List.cons_append, List.cons_append, follow?_insertAt_cons_cons, if_pos rfl]
          exact inductionHypothesis (List.cons_ne_nil second rest) (table.nested key)

/-- On the way to a value that is stored, a path leads to a table. -/
theorem exists_follow?_insertAt
    {above : List String}
    (aboveNonempty : above ≠ [])
    (value : Value)
    (table : Table)
    (next : String)
    (others : List String) :
    ∃ inner,
      (table.insertAt value (above ++ next :: others)).follow? above = some (.table inner) := by
  induction above generalizing table with
  | nil =>
      exact (aboveNonempty rfl).elim
  | cons key rest inductionHypothesis =>
      cases rest with
      | nil =>
          rw [List.singleton_append, insertAt_cons_cons, follow?, get?_insert, if_pos rfl]
          exact ⟨_, rfl⟩
      | cons second rest =>
          rw [List.cons_append, List.cons_append, follow?_insertAt_cons_cons, if_pos rfl]
          exact inductionHypothesis (List.cons_ne_nil second rest) (table.nested key)

/-- A path that goes another way leads where it led before. -/
theorem follow?_insertAt_of_not_prefix
    {other : List String}
    (notAbove : ¬ other <+: path)
    (notBelow : ¬ path <+: other)
    (value : Value)
    (table : Table) :
    (table.insertAt value path).follow? other = table.follow? other := by
  induction path generalizing table other with
  | nil =>
      exact (notBelow List.nil_prefix).elim
  | cons key rest inductionHypothesis =>
      cases other with
      | nil =>
          exact (notAbove List.nil_prefix).elim
      | cons first others =>
          by_cases same : first = key
          · subst same
            rw [List.prefix_cons_inj] at notAbove notBelow
            cases rest with
            | nil =>
                exact (notBelow List.nil_prefix).elim
            | cons next rest =>
                cases others with
                | nil =>
                    exact (notAbove List.nil_prefix).elim
                | cons following others =>
                    rw [follow?_insertAt_cons_cons, if_pos rfl, follow?_cons_cons]
                    exact inductionHypothesis notAbove notBelow (table.nested first)
          · -- Only what stands under the first key of the path is written to.
            have sameValue :
                (table.insertAt value (key :: rest)).get? first = table.get? first := by
              cases rest with
              | nil =>
                  rw [insertAt, get?_insert, if_neg same]
              | cons next rest =>
                  rw [insertAt_cons_cons, get?_insert, if_neg same]
            exact follow?_congr sameValue others

end Stored

end Table

end BlockSync
