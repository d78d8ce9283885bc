import Mathlib.Tactic.Common

namespace Except

/-!
# Steps that succeed

Steps that may fail, one after another, succeed exactly if each of them succeeds, and otherwise
fail as the first of them that does not.
-/

/-- Two steps succeed exactly if the first one does, and the second one on its outcome. -/
theorem bind_eq_ok_iff
    {first : Except ε α}
    {next : α → Except ε β}
    {outcome : β} :
    (first >>= next) = .ok outcome ↔ ∃ middle, first = .ok middle ∧ next middle = .ok outcome := by
  cases first with
  | error error =>
      constructor
      · intro succeeded
        cases succeeded
      · rintro ⟨middle, succeeded, _⟩
        cases succeeded
  | ok middle =>
      constructor
      · intro succeeded
        exact ⟨middle, rfl, succeeded⟩
      · rintro ⟨same, isMiddle, succeeded⟩
        cases isMiddle
        exact succeeded

/-- Another way to report a failure makes no difference to success. -/
theorem mapError_eq_ok_iff
    {step : Except ε α}
    {report : ε → δ}
    {outcome : α} :
    step.mapError report = .ok outcome ↔ step = .ok outcome := by
  cases step <;> simp [Except.mapError]

/-- Two steps fail exactly if the first one does, or the second one on its outcome. -/
theorem bind_eq_error_iff
    {first : Except ε α}
    {next : α → Except ε β}
    {error : ε} :
    (first >>= next) = .error error ↔
      first = .error error ∨ ∃ middle, first = .ok middle ∧ next middle = .error error := by
  cases first with
  | error other =>
      constructor
      · intro failed
        cases failed
        exact .inl rfl
      · rintro (failed | ⟨middle, succeeded, _⟩)
        · cases failed
          rfl
        · cases succeeded
  | ok middle =>
      constructor
      · exact fun failed => .inr ⟨middle, rfl, failed⟩
      · rintro (failed | ⟨same, isMiddle, failed⟩)
        · cases failed
        · cases isMiddle
          exact failed

/-- A failure that is reported in another way was a failure before. -/
theorem mapError_eq_error_iff
    {step : Except ε α}
    {report : ε → δ}
    {error : δ} :
    step.mapError report = .error error ↔ ∃ cause, step = .error cause ∧ report cause = error := by
  cases step <;> simp [Except.mapError]

/-- Another outcome makes no difference to failure. -/
theorem map_eq_error_iff
    {step : Except ε α}
    {change : α → β}
    {error : ε} :
    step.map change = .error error ↔ step = .error error := by
  cases step <;> simp [Except.map]

/-- An outcome that was changed was another one before. -/
theorem map_eq_ok_iff
    {step : Except ε α}
    {change : α → β}
    {outcome : β} :
    step.map change = .ok outcome ↔ ∃ before, step = .ok before ∧ change before = outcome := by
  cases step <;> simp [Except.map]

/-- What is left when failures are forgotten is what succeeded. -/
theorem toOption_eq_some_iff
    {step : Except ε α}
    {outcome : α} :
    step.toOption = some outcome ↔ step = .ok outcome := by
  cases step <;> simp [Except.toOption]

/-- What every step on an item preserves holds after the steps on all items. -/
theorem foldlM_invariant_of_mem
    {holds : β → Prop}
    {step : β → α → Except ε β}
    {items : List α}
    (preserved :
      ∀ state, ∀ item ∈ items, ∀ next, holds state → step state item = .ok next → holds next)
    {start final : β}
    (starts : holds start)
    (folded : items.foldlM step start = .ok final) :
    holds final := by
  induction items generalizing start with
  | nil =>
      cases folded
      exact starts
  | cons item others inductionHypothesis =>
      rw [List.foldlM_cons, bind_eq_ok_iff] at folded
      obtain ⟨next, stepped, folded⟩ := folded
      exact
        inductionHypothesis
          (fun state other member => preserved state other (List.mem_cons_of_mem item member))
          (preserved start item List.mem_cons_self next starts stepped) folded

/-- What every step preserves holds after all of them. -/
theorem foldlM_invariant
    {holds : β → Prop}
    {step : β → α → Except ε β}
    {items : List α}
    (preserved : ∀ state item next, holds state → step state item = .ok next → holds next)
    {start final : β}
    (starts : holds start)
    (folded : items.foldlM step start = .ok final) :
    holds final :=
  foldlM_invariant_of_mem (fun state item _ => preserved state item) starts folded

/-- A run of steps fails exactly if one of them does after those before it succeeded. -/
theorem foldlM_eq_error_iff
    {step : β → α → Except ε β}
    {items : List α}
    {start : β}
    {error : ε} :
    items.foldlM step start = .error error ↔
      ∃ before item after state,
        items = before ++ item :: after ∧
          before.foldlM step start = .ok state ∧
          step state item = .error error := by
  induction items generalizing start with
  | nil =>
      constructor
      · intro failed
        cases failed
      · rintro ⟨before, item, after, _, split, _⟩
        exact (List.append_ne_nil_of_right_ne_nil _ (List.cons_ne_nil item after) split.symm).elim
  | cons first others inductionHypothesis =>
      rw [List.foldlM_cons, bind_eq_error_iff]
      constructor
      · rintro (failed | ⟨next, stepped, failed⟩)
        · exact ⟨[], first, others, start, rfl, rfl, failed⟩
        · obtain ⟨before, item, after, state, rfl, folded, failed⟩ := inductionHypothesis.mp failed
          refine ⟨first :: before, item, after, state, rfl, ?_, failed⟩
          rw [List.foldlM_cons, bind_eq_ok_iff]
          exact ⟨next, stepped, folded⟩
      · rintro ⟨before, item, after, state, split, folded, failed⟩
        cases before with
        | nil =>
            cases split
            cases folded
            exact .inl failed
        | cons _ before =>
            cases split
            rw [List.foldlM_cons, bind_eq_ok_iff] at folded
            obtain ⟨next, stepped, folded⟩ := folded
            have failedLater :=
              inductionHypothesis.mpr ⟨before, item, after, state, rfl, folded, failed⟩
            exact .inr ⟨next, stepped, failedLater⟩

/-- The failure of a step, if it fails. -/
def error? : Except ε α → Option ε
  | .error cause => some cause
  | .ok _ => none

/-- What failed is what is left when successes are forgotten. -/
theorem error?_eq_some_iff
    {step : Except ε α}
    {cause : ε} :
    step.error? = some cause ↔ step = .error cause := by
  cases step <;> simp [error?]

/-- Steps on all items fail exactly as the first step that fails. -/
theorem mapM_eq_error_iff
    {step : α → Except ε β}
    {items : List α}
    {error : ε} :
    items.mapM step = .error error ↔
      (items.findSome? fun item => (step item).error?) = some error := by
  induction items with
  | nil =>
      simp [pure, Except.pure]
  | cons item others inductionHypothesis =>
      rw [List.mapM_cons, List.findSome?_cons]
      cases step item with
      | error other =>
          simp [error?, bind, Except.bind]
      | ok outcome =>
          rw [error?, ← inductionHypothesis]
          cases others.mapM step <;> simp [bind, Except.bind, pure, Except.pure]

end Except
