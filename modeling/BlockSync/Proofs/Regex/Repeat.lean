import BlockSync.Proofs.Regex.Search

namespace BlockSync.Regex

/-!
# Repeating a single character test

A greedy repetition passes as many characters as it may and then gives them up one by one.  Where
a fixed number of characters is asked for there is nothing to give up.
-/

namespace Cursor

/-- The longest run of accepted characters, up to a limit, heads the positions that are reached. -/
theorem passes_shape
    (test : CharTest)
    (limit : Nat)
    (cursor : Cursor)
    (reached : List Cursor) :
    ∃ run rest earlier,
      cursor.ahead = run ++ rest ∧
        (∀ c ∈ run, test.accepts c = true) ∧
        run.length ≤ limit ∧
        (run.length < limit → ∀ c ∈ rest.head?, test.accepts c = false) ∧
        earlier.length = run.length + reached.length ∧
        passes test limit cursor reached =
          ⟨run.reverse ++ cursor.behind, rest, cursor.offset + run.length⟩ ::
            earlier := by
  induction limit generalizing cursor reached with
  | zero =>
      exact ⟨[], cursor.ahead, reached, by simp, by simp, by simp, by simp,
        by simp, by simp [passes]⟩
  | succ limit inductionHypothesis =>
      obtain ⟨behind, ahead, offset⟩ := cursor
      cases ahead with
      | nil =>
          exact ⟨[], [], reached, by simp, by simp, by simp, by simp,
            by simp, by simp [passes, pass?]⟩
      | cons c others =>
          by_cases accepted : test.accepts c = true
          · obtain ⟨run, rest, earlier, shape, allAccepted, short, stopped,
                length, positions⟩ :=
              inductionHypothesis ⟨c :: behind, others, offset + 1⟩
                (⟨behind, c :: others, offset⟩ :: reached)
            refine
              ⟨c :: run, rest, earlier, ?_, ?_, ?_, ?_, ?_, ?_⟩
            · rw [List.cons_append, ← shape]
            · simpa [accepted] using allAccepted
            · simpa using short
            · intro shorter
              exact stopped (by simpa using shorter)
            · simp only [List.length_cons] at length ⊢
              omega
            · simp [passes, pass?, accepted, positions, Nat.add_assoc,
                Nat.add_comm 1]
          · exact ⟨[], c :: others, reached, by simp, by simp, by simp,
              by simpa using accepted, by simp, by simp [passes, pass?, accepted]⟩

end Cursor

/-- A fixed number of accepted characters is passed, and the match goes on behind them. -/
theorem Node.run_fixedRepeat
    {test : CharTest}
    {run rest : List Char}
    (state : State)
    (continuation : Continuation)
    (ahead : state.cursor.ahead = run ++ rest)
    (accepted : ∀ c ∈ run, test.accepts c = true) :
    ((Node.loop .greedy run.length (some run.length) (.char test)).run
        none state continuation).state? =
      (continuation
        (state.beginAt
          ⟨run.reverse ++ state.cursor.behind, rest,
            state.cursor.offset + run.length⟩)).state? := by
  obtain ⟨passed, others, earlier, shape, allAccepted, short, stopped,
      length, positions⟩ :=
    Cursor.passes_shape test run.length state.cursor []
  have samePass : passed = run ∧ others = rest := by
    apply List.append_inj (shape.symm.trans ahead)
    by_contra different
    have shorter : passed.length < run.length := by omega
    -- The run goes on where the passed characters are said to have stopped.
    have nextShape : others.head? = run[passed.length]? := by
      have atStop : (passed ++ others)[passed.length]? =
          (run ++ rest)[passed.length]? := by
        rw [← shape, ahead]
      rw [List.getElem?_append_right (Nat.le_refl _), Nat.sub_self,
        List.getElem?_append_left shorter] at atStop
      rw [List.head?_eq_getElem?, atStop]
    have nextMember : run[passed.length] ∈ others.head? := by
      rw [nextShape, List.getElem?_eq_getElem shorter]
      rfl
    have refused := stopped shorter _ nextMember
    rw [accepted _ (List.getElem_mem shorter)] at refused
    cases refused
  obtain ⟨rfl, rfl⟩ := samePass
  have available : ¬ state.cursor.ahead.length < passed.length := by
    rw [shape, List.length_append]
    omega
  have limit :
      min passed.length state.cursor.ahead.length = passed.length := by
    omega
  have one : earlier.length + 1 - passed.length = 1 := by
    rw [length, List.length_nil]
    omega
  simp only [Node.run, runChars, available, ↓reduceIte, limit, positions,
    List.length_cons, one, List.take_succ_cons, List.take_zero, tryFrom,
    Cursor.meets, Option.all_none]
  cases continuation
      (state.beginAt
        ⟨passed.reverse ++ state.cursor.behind, others,
          state.cursor.offset + passed.length⟩) <;>
    rfl

/-- A match of a fixed repetition has passed that number of accepted characters. -/
theorem Node.exists_of_run_fixedRepeat
    {test : CharTest}
    {count : Nat}
    {next? : Option Nat}
    {state : State}
    {continuation : Continuation}
    (matched :
      ((Node.loop .greedy count (some count) (.char test)).run
        next? state continuation).state? ≠ none) :
    ∃ run rest,
      state.cursor.ahead = run ++ rest ∧
        run.length = count ∧
        ∀ c ∈ run, test.accepts c = true := by
  obtain ⟨passed, others, earlier, shape, allAccepted, short, _,
      length, positions⟩ :=
    Cursor.passes_shape test count state.cursor []
  refine ⟨passed, others, shape, ?_, allAccepted⟩
  by_contra different
  have noPosition : earlier.length + 1 - count = 0 := by
    rw [length, List.length_nil]
    omega
  apply matched
  simp only [Node.run, runChars]
  split
  · rfl
  · next available =>
    have limit : min count state.cursor.ahead.length = count := by
      omega
    simp [limit, positions, noPosition, tryFrom, Attempt.state?]

end BlockSync.Regex
