import BlockSync.Proofs.Value.Dotted

namespace BlockSync

/-!
# The order of storing

A value that is stored under a dotted key a second time takes the place of the first one, and it
does not matter what was stored under keys that go another way in between.
-/

/-- What is stored under the first key of a path: the value itself, or a table that leads to it. -/
def Value.under (value : Value) : List String → Table → Value
  | [], _ => value
  | next :: rest, inner => .table (inner.insertAt value (next :: rest))

namespace Table

/-- A value that is stored twice is the one that was stored later. -/
theorem insert_insert_self
    (table : Table)
    (key : String)
    (old value : Value) :
    (table.insert key old).insert key value = table.insert key value := by
  induction table with
  | nil =>
      simp [insert]
  | cons entry rest inductionHypothesis =>
      obtain ⟨other, stored⟩ := entry
      rw [insert, insert]
      split
      · rw [insert, if_pos rfl]
      · next different =>
        rw [insert, if_neg different, inductionHypothesis]

/-- A value keeps its place, so another one can be stored before or after it is replaced. -/
theorem insert_comm
    {table : Table}
    {key other : String}
    (present : table.get? key ≠ none)
    (different : other ≠ key)
    (value otherValue : Value) :
    (table.insert other otherValue).insert key value =
      (table.insert key value).insert other otherValue := by
  induction table with
  | nil =>
      exact (present rfl).elim
  | cons entry rest inductionHypothesis =>
      obtain ⟨stored, old⟩ := entry
      by_cases isKey : stored = key
      · subst isKey
        simp [insert, different.symm]
      · have presentLater : get? rest key ≠ none := by
          rwa [get?, lookup_cons_eq_ite, if_neg (Ne.symm isKey)] at present
        by_cases isOther : stored = other
        · simp [insert, isOther, different]
        · simp [insert, isOther, isKey, inductionHypothesis presentLater]

/-- A path is stored at under its first key. -/
theorem insertAt_cons
    (table : Table)
    (value : Value)
    (key : String)
    (rest : List String) :
    table.insertAt value (key :: rest) =
      table.insert key (value.under rest (table.nested key)) := by
  cases rest with
  | nil =>
      rfl
  | cons next rest =>
      exact insertAt_cons_cons table value key next rest

/-- A value that is stored at the end of a path twice is the one that was stored later. -/
theorem insertAt_insertAt_self
    {path : List String}
    (nonempty : path ≠ [])
    (table : Table)
    (old value : Value) :
    (table.insertAt old path).insertAt value path = table.insertAt value path := by
  induction path generalizing table with
  | nil =>
      exact (nonempty rfl).elim
  | cons key rest inductionHypothesis =>
      rw [insertAt_cons, insertAt_cons, insertAt_cons, nested_insert, if_pos rfl,
        insert_insert_self]
      cases rest with
      | nil =>
          rfl
      | cons next rest =>
          rw [Value.under, Value.under, Value.under, Value.entries,
            inductionHypothesis (List.cons_ne_nil next rest)]

/-- A path leads on from a value under its first key. -/
theorem get?_ne_none_of_follow?
    {table : Table}
    {key : String}
    {rest : List String}
    (found : table.follow? (key :: rest) ≠ none) :
    table.get? key ≠ none :=
  fun missing => found (follow?_of_get?_eq_none missing rest)

/--
A value that a path leads to can be replaced before or after another one is stored at the end of a
path that goes another way.
-/
theorem insertAt_comm
    {table : Table}
    {path other : List String}
    (present : table.follow? path ≠ none)
    (notAbove : ¬ other <+: path)
    (notBelow : ¬ path <+: other)
    (value otherValue : Value) :
    (table.insertAt otherValue other).insertAt value path =
      (table.insertAt value path).insertAt otherValue other := by
  induction path generalizing table other with
  | nil =>
      exact (notBelow List.nil_prefix).elim
  | cons key rest inductionHypothesis =>
      cases other with
      | nil =>
          exact (notAbove List.nil_prefix).elim
      | cons first others =>
          simp only [insertAt_cons, nested_insert]
          by_cases same : first = key
          · subst same
            rw [List.prefix_cons_inj] at notAbove notBelow
            simp only [↓reduceIte, insert_insert_self]
            cases rest with
            | nil =>
                exact (notBelow List.nil_prefix).elim
            | cons next rest =>
                cases others with
                | nil =>
                    exact (notAbove List.nil_prefix).elim
                | cons following others =>
                    rw [follow?_cons_cons] at present
                    simp only [Value.under, Value.entries]
                    rw [inductionHypothesis present notAbove notBelow]
          · rw [if_neg same, if_neg (Ne.symm same),
              insert_comm (get?_ne_none_of_follow? present) same]

end Table

end BlockSync
