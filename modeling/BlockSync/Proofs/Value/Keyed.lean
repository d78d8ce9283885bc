import Mathlib.Data.List.Nodup

namespace BlockSync

/-!
# Values under keys

Lists of values under keys are all written in the same way: a value takes the place of the one that
its key had, or comes last.  So it is found under its key, and nothing else changes.  Keys that are
collected from several places are listed once each.
-/

section Duplicates

variable {α : Type} [BEq α] [LawfulBEq α]

/-- Nothing is listed twice once duplicates are dropped. -/
theorem nodup_eraseDups : (items : List α) → items.eraseDups.Nodup
  | [] => List.nodup_nil
  | first :: others => by
      rw [List.eraseDups_cons, List.nodup_cons]
      refine ⟨?_, nodup_eraseDups _⟩
      simp [List.mem_eraseDups]
  termination_by items => items.length
  decreasing_by
    exact Nat.lt_succ_of_le (List.length_filter_le _ others)

/-- A list without duplicates has none to drop. -/
theorem eraseDups_of_nodup
    {items : List α}
    (distinct : items.Nodup) :
    items.eraseDups = items := by
  induction items with
  | nil =>
      rfl
  | cons first others inductionHypothesis =>
      rw [List.nodup_cons] at distinct
      have allOther : ∀ other ∈ others, (!other == first) = true := by
        intro other member
        have different : other ≠ first := by
          rintro rfl
          exact distinct.1 member
        simpa using different
      rw [List.eraseDups_cons, List.filter_eq_self.mpr allOther, inductionHypothesis distinct.2]

end Duplicates

section Lookup

variable {V : Type} {α : Type}

/-- The first value decides unless another key is looked up. -/
theorem lookup_cons_eq_ite
    (key first : String)
    (value : V)
    (others : List (String × V)) :
    ((first, value) :: others).lookup key =
      if key = first then some value else others.lookup key := by
  rw [List.lookup_cons]
  by_cases same : key = first
  · rw [if_pos same, same, beq_self_eq_true]
  · rw [if_neg same, beq_false_of_ne same]

/-- No value is found under a key that no item has. -/
theorem lookup_eq_none_of_notMem
    {key : String}
    {items : List (String × V)}
    (absent : key ∉ items.map (·.1)) :
    items.lookup key = none := by
  rw [List.lookup_eq_none_iff]
  intro item member
  rw [bne_iff_ne]
  rintro rfl
  exact absent (List.mem_map_of_mem member)

/-- With distinct keys, a value is found under its key. -/
theorem lookup_eq_some_iff_mem
    {items : List (String × V)}
    (distinct : (items.map (·.1)).Nodup)
    {key : String}
    {value : V} :
    items.lookup key = some value ↔ (key, value) ∈ items := by
  induction items with
  | nil =>
      simp
  | cons item others inductionHypothesis =>
      obtain ⟨first, old⟩ := item
      rw [List.map_cons, List.nodup_cons] at distinct
      rw [lookup_cons_eq_ite, List.mem_cons, Prod.mk.injEq]
      by_cases same : key = first
      · subst same
        have absent : (key, value) ∉ others := by
          intro member
          exact distinct.1 (List.mem_map_of_mem (f := (·.1)) member)
        simp [absent, eq_comm]
      · simp [same, inductionHypothesis distinct.2]

/-- Of the items with certain keys, just those keys keep their values. -/
theorem lookup_filter_key
    (keeps : String → Bool)
    (items : List (String × V))
    (key : String) :
    (items.filter fun item => keeps item.1).lookup key =
      if keeps key then items.lookup key else none := by
  induction items with
  | nil =>
      rw [List.filter_nil, List.lookup_nil, ite_self]
  | cons item others inductionHypothesis =>
      obtain ⟨first, value⟩ := item
      rw [List.filter_cons, lookup_cons_eq_ite]
      by_cases same : key = first
      · subst same
        cases kept : keeps key with
        | true =>
            simp
        | false =>
            simpa [kept] using inductionHypothesis
      · rw [if_neg same, ← inductionHypothesis]
        split
        · rw [lookup_cons_eq_ite, if_neg same]
        · rfl

/-- Each of the listed keys has the value that is worked out for it, if there is one. -/
theorem lookup_filterMap_key
    (value? : String → Option V)
    (keys : List String)
    (key : String) :
    (keys.filterMap fun other => (value? other).map (other, ·)).lookup key =
      if key ∈ keys then value? key else none := by
  induction keys with
  | nil =>
      rfl
  | cons first others inductionHypothesis =>
      rw [List.filterMap_cons]
      by_cases same : key = first
      · subst same
        rw [if_pos List.mem_cons_self]
        cases found : value? key with
        | none =>
            simp [inductionHypothesis, found]
        | some value =>
            simp
      · have member : key ∈ first :: others ↔ key ∈ others := by
          simp [same]
        cases value? first with
        | none =>
            simpa [member] using inductionHypothesis
        | some value =>
            simpa [member, lookup_cons_eq_ite, same] using inductionHypothesis

/-- The keys that a value is worked out for are some of the listed ones. -/
theorem map_fst_filterMap_key
    (value? : String → Option V)
    (keys : List String) :
    (keys.filterMap fun key => (value? key).map (key, ·)).map (·.1) =
      keys.filter fun key => (value? key).isSome := by
  induction keys with
  | nil =>
      rfl
  | cons first others inductionHypothesis =>
      cases found : value? first with
      | none =>
          simpa [found] using inductionHypothesis
      | some value =>
          simpa [found] using inductionHypothesis

/-- Values that are all converted are found converted under their keys. -/
theorem lookup_map_value
    (convert : V → α)
    (entries : List (String × V))
    (key : String) :
    (entries.map fun entry => (entry.1, convert entry.2)).lookup key =
      (entries.lookup key).map convert := by
  induction entries with
  | nil =>
      rfl
  | cons entry others inductionHypothesis =>
      obtain ⟨first, value⟩ := entry
      rw [List.map_cons, lookup_cons_eq_ite, lookup_cons_eq_ite, inductionHypothesis]
      split <;> rfl

/-- A function that puts a value under a key: in place of the old one, or as the last. -/
structure IsPut (put : String → V → List (String × V) → List (String × V)) : Prop where
  nil :
    ∀ key value, put key value [] = [(key, value)]
  cons :
    ∀ key value other old rest,
      put key value ((other, old) :: rest) =
        if other = key then (key, value) :: rest else (other, old) :: put key value rest

namespace IsPut

variable {put : String → V → List (String × V) → List (String × V)}

/-- A value that is put under a key is found there, and every other one as before. -/
theorem lookup_eq_ite
    (isPut : IsPut put)
    (key : String)
    (value : V)
    (items : List (String × V))
    (other : String) :
    (put key value items).lookup other =
      if other = key then some value else items.lookup other := by
  induction items with
  | nil =>
      rw [isPut.nil, lookup_cons_eq_ite]
  | cons item rest inductionHypothesis =>
      obtain ⟨stored, old⟩ := item
      rw [isPut.cons, lookup_cons_eq_ite]
      by_cases isStored : stored = key
      · rw [if_pos isStored, lookup_cons_eq_ite, isStored]
        split <;> rfl
      · rw [if_neg isStored, lookup_cons_eq_ite, inductionHypothesis]
        by_cases same : other = key
        · rw [if_pos same, if_pos same, if_neg (same ▸ Ne.symm isStored)]
        · rw [if_neg same, if_neg same]

/-- A value that is put under a key keeps the keys, and adds its own one if it is not among them. -/
theorem map_fst
    (isPut : IsPut put)
    (key : String)
    (value : V)
    (items : List (String × V)) :
    (put key value items).map (·.1) =
      if key ∈ items.map (·.1) then items.map (·.1) else items.map (·.1) ++ [key] := by
  induction items with
  | nil =>
      rw [isPut.nil]
      rfl
  | cons item rest inductionHypothesis =>
      obtain ⟨stored, old⟩ := item
      rw [isPut.cons]
      by_cases isStored : stored = key
      · rw [if_pos isStored, if_pos (by simp [isStored])]
        simp [isStored]
      · rw [if_neg isStored]
        simp only [List.map_cons, List.mem_cons, Ne.symm isStored, false_or, inductionHypothesis]
        split <;> rfl

/-- Values that are put under different keys one after another stand over the earlier ones. -/
theorem lookup_foldl
    (isPut : IsPut put)
    {upper : List (String × V)}
    (distinct : (upper.map (·.1)).Nodup)
    (lower : List (String × V))
    (key : String) :
    (upper.foldl (fun items (key, value) => put key value items) lower).lookup key =
      (upper.lookup key).or (lower.lookup key) := by
  induction upper generalizing lower with
  | nil =>
      rfl
  | cons item others inductionHypothesis =>
      obtain ⟨first, value⟩ := item
      rw [List.map_cons, List.nodup_cons] at distinct
      rw [List.foldl_cons, inductionHypothesis distinct.2, isPut.lookup_eq_ite, lookup_cons_eq_ite]
      by_cases same : key = first
      · -- No later item has the key again, so the value put here stays.
        rw [if_pos same, if_pos same, lookup_eq_none_of_notMem (same ▸ distinct.1)]
        rfl
      · rw [if_neg same, if_neg same]

end IsPut

end Lookup

end BlockSync
