import BlockSync.FileTree.Path
import Mathlib.Data.List.Nodup
import Mathlib.Data.String.Basic

namespace BlockSync.FilePath

/-!
# The order of paths

Paths are ordered name by name, so any two of them are in order one way, and in order both ways only
if they are the same.  A sorted list of paths without duplicates is given by its members.
-/

/-- The first names decide, and the names behind them only if they are the same. -/
theorem namesPrecede_cons_iff
    {first second : String}
    {names others : List String} :
    namesPrecede (first :: names) (second :: others) = true ↔
      first < second ∨ first = second ∧ namesPrecede names others = true := by
  rw [namesPrecede]
  split
  · next same =>
    simp [same]
  · next different =>
    simp [different]

/-- Any two lists of names are in order one way. -/
theorem namesPrecede_total :
    ∀ names others : List String,
      (namesPrecede names others || namesPrecede others names) = true := by
  intro names
  induction names with
  | nil =>
      intro others
      rfl
  | cons first names inductionHypothesis =>
      intro others
      cases others with
      | nil =>
          rfl
      | cons second others =>
          rw [Bool.or_eq_true, namesPrecede_cons_iff, namesPrecede_cons_iff]
          rcases lt_trichotomy first second with before | rfl | after
          · exact .inl (.inl before)
          · rcases Bool.or_eq_true_iff.mp (inductionHypothesis others) with ordered | ordered
            · exact .inl (.inr ⟨rfl, ordered⟩)
            · exact .inr (.inr ⟨rfl, ordered⟩)
          · exact .inr (.inl after)

/-- Lists of names that are in order with one between them are in order. -/
theorem namesPrecede_trans :
    ∀ names others further : List String,
      namesPrecede names others = true →
        namesPrecede others further = true →
        namesPrecede names further = true := by
  intro names
  induction names with
  | nil =>
      intro others further _ _
      cases further <;> rfl
  | cons first names inductionHypothesis =>
      intro others further ordered orderedFurther
      cases others with
      | nil =>
          cases ordered
      | cons second others =>
          cases further with
          | nil =>
              cases orderedFurther
          | cons third further =>
              rw [namesPrecede_cons_iff] at ordered orderedFurther ⊢
              rcases ordered with before | ⟨rfl, ordered⟩
              · rcases orderedFurther with beforeThird | ⟨rfl, _⟩
                · exact .inl (before.trans beforeThird)
                · exact .inl before
              · rcases orderedFurther with beforeThird | ⟨rfl, orderedFurther⟩
                · exact .inl beforeThird
                · exact .inr ⟨rfl, inductionHypothesis _ _ ordered orderedFurther⟩

/-- Lists of names that are in order both ways are the same. -/
theorem namesPrecede_antisymm :
    ∀ names others : List String,
      namesPrecede names others = true → namesPrecede others names = true → names = others := by
  intro names
  induction names with
  | nil =>
      intro others _ back
      cases others with
      | nil =>
          rfl
      | cons second others =>
          cases back
  | cons first names inductionHypothesis =>
      intro others forth back
      cases others with
      | nil =>
          cases forth
      | cons second others =>
          rw [namesPrecede_cons_iff] at forth back
          rcases forth with before | ⟨rfl, forth⟩
          · rcases back with after | ⟨rfl, _⟩
            · exact (lt_asymm before after).elim
            · exact (lt_irrefl _ before).elim
          · rcases back with after | ⟨_, back⟩
            · exact (lt_irrefl _ after).elim
            · rw [inductionHypothesis _ forth back]

/-- Names that are put in front of both lists do not matter to their order. -/
theorem namesPrecede_append_left
    (front names others : List String) :
    namesPrecede (front ++ names) (front ++ others) = namesPrecede names others := by
  induction front with
  | nil =>
      rfl
  | cons first front inductionHypothesis =>
      rw [List.cons_append, List.cons_append, namesPrecede, if_pos rfl, inductionHypothesis]

/-- Any two paths are in order one way. -/
theorem precedes_total (path other : FilePath) :
    (path.precedes other || other.precedes path) = true :=
  namesPrecede_total _ _

/-- Paths that are in order with one between them are in order. -/
theorem precedes_trans
    (path other further : FilePath)
    (ordered : path.precedes other = true)
    (orderedFurther : other.precedes further = true) :
    path.precedes further = true :=
  namesPrecede_trans _ _ _ ordered orderedFurther

/-- Paths that are in order both ways are the same. -/
theorem precedes_antisymm
    {path other : FilePath}
    (forth : path.precedes other = true)
    (back : other.precedes path = true) :
    path = other := by
  obtain ⟨root, names⟩ := path
  obtain ⟨otherRoot, others⟩ := other
  obtain ⟨rfl, rfl⟩ := List.cons.inj (namesPrecede_antisymm _ _ forth back)
  rfl

/-- Sorted lists of paths without duplicates are the same if they have the same members. -/
theorem eq_of_mem_iff
    {paths others : List FilePath}
    (distinct : paths.Nodup)
    (othersDistinct : others.Nodup)
    (sorted : paths.Pairwise fun path other => path.precedes other = true)
    (othersSorted : others.Pairwise fun path other => path.precedes other = true)
    (sameMembers : ∀ path, path ∈ paths ↔ path ∈ others) :
    paths = others :=
  List.Perm.eq_of_pairwise (fun _ _ _ _ => precedes_antisymm) sorted othersSorted
    ((List.perm_ext_iff_of_nodup distinct othersDistinct).mpr sameMembers)

end BlockSync.FilePath
