import BlockSync.Regex.Matcher

namespace BlockSync.Regex

/-!
# Matches inside of their text

Every position that an attempt reaches or is left at is a position of the text it was begun in,
whatever the pattern: the steps of the matcher take characters from one side of a position to the
other one.  So a search answers with offsets that do not go past the end of the text.
-/

/-- A position in a given text: what is behind it and ahead of it make up the text. -/
structure Cursor.IsIn (text : List Char) (cursor : Cursor) : Prop where
  whole :
    cursor.behind.reverse ++ cursor.ahead = text
  counted :
    cursor.offset = cursor.behind.length

/-- A state of which the position, and the one where it was left, are in a given text. -/
structure State.IsIn (text : List Char) (state : State) : Prop where
  cursor :
    state.cursor.IsIn text
  left :
    state.left.IsIn text

/-- An attempt that ends at a position in a given text. -/
def Attempt.IsIn (text : List Char) : Attempt → Prop
  | .matched state => state.IsIn text
  | .failed left => left.IsIn text

/-- What goes on in a given text from each state in it. -/
def Continuation.StaysIn (text : List Char) (continuation : Continuation) : Prop :=
  ∀ state : State, state.IsIn text → (continuation state).IsIn text

variable {text : List Char}

namespace Cursor.IsIn

variable {cursor : Cursor}

/-- A position does not lie past the end of its text. -/
theorem offset_le (isIn : cursor.IsIn text) : cursor.offset ≤ text.length := by
  rw [isIn.counted, ← isIn.whole, List.length_append, List.length_reverse]
  exact Nat.le_add_right _ _

/-- One character further is in the same text. -/
theorem step
    {behind rest : List Char}
    {c : Char}
    {offset : Nat}
    (isIn : Cursor.IsIn text ⟨behind, c :: rest, offset⟩) :
    Cursor.IsIn text ⟨c :: behind, rest, offset + 1⟩ where
  whole := by
    simpa using isIn.whole
  counted :=
    congrArg (· + 1) isIn.counted

/-- A character that is passed is one of the text. -/
theorem pass?
    {test : CharTest}
    {further : Cursor}
    (isIn : cursor.IsIn text)
    (passed : cursor.pass? test = some further) :
    further.IsIn text := by
  obtain ⟨behind, ahead, offset⟩ := cursor
  cases ahead with
  | nil =>
      cases passed
  | cons c rest =>
      simp only [Cursor.pass?, Option.ite_none_right_eq_some, Option.some.injEq] at passed
      obtain ⟨_, rfl⟩ := passed
      exact isIn.step

/-- Going back, one stays in the text. -/
theorem back?
    {count : Nat}
    {earlier : Cursor}
    (isIn : cursor.IsIn text)
    (wentBack : cursor.back? count = some earlier) :
    earlier.IsIn text := by
  induction count generalizing cursor with
  | zero =>
      cases wentBack
      exact isIn
  | succ count inductionHypothesis =>
      obtain ⟨behind, ahead, offset⟩ := cursor
      cases behind with
      | nil =>
          cases wentBack
      | cons c rest =>
          refine inductionHypothesis ⟨?_, ?_⟩ wentBack
          · simpa using isIn.whole
          · have counted : offset = rest.length + 1 := isIn.counted
            exact Nat.sub_eq_of_eq_add counted

/-- Going past a captured text, one stays in the text. -/
theorem passText?
    {casing : Casing}
    {captured : List Char}
    {further : Cursor}
    (isIn : cursor.IsIn text)
    (passed : cursor.passText? casing captured = some further) :
    further.IsIn text := by
  induction captured generalizing cursor with
  | nil =>
      cases passed
      exact isIn
  | cons expected others inductionHypothesis =>
      obtain ⟨behind, ahead, offset⟩ := cursor
      cases ahead with
      | nil =>
          cases passed
      | cons c rest =>
          simp only [Cursor.passText?, Option.ite_none_right_eq_some] at passed
          exact inductionHypothesis isIn.step passed.2

/-- All positions that a run of accepted characters reaches are in the text. -/
theorem passes
    {test : CharTest}
    (limit : Nat)
    {reached : List Cursor}
    (isIn : cursor.IsIn text)
    (earlier : ∀ other ∈ reached, other.IsIn text) :
    ∀ other ∈ Cursor.passes test limit cursor reached, other.IsIn text := by
  induction limit generalizing cursor reached with
  | zero =>
      exact List.forall_mem_cons.mpr ⟨isIn, earlier⟩
  | succ limit inductionHypothesis =>
      rw [Cursor.passes]
      split
      · next further passed =>
        exact
          inductionHypothesis (isIn.pass? passed) (List.forall_mem_cons.mpr ⟨isIn, earlier⟩)
      · exact List.forall_mem_cons.mpr ⟨isIn, earlier⟩

end Cursor.IsIn

namespace State.IsIn

variable {state : State} {cursor : Cursor}

/-- Another position of the text can take the place of the one that was reached. -/
theorem moveTo
    (isIn : state.IsIn text)
    (also : cursor.IsIn text) :
    (state.moveTo cursor).IsIn text :=
  ⟨also, isIn.left⟩

/-- A part can be begun or settled at any position of the text. -/
theorem beginAt
    (state : State)
    (also : cursor.IsIn text) :
    (state.beginAt cursor).IsIn text :=
  ⟨also, also⟩

/-- A part can be begun or settled where the state is. -/
theorem beginHere (isIn : state.IsIn text) : state.beginHere.IsIn text :=
  beginAt state isIn.cursor

/-- Another position of the text can take the place of the one where an attempt was left. -/
theorem leftAt
    (isIn : state.IsIn text)
    (also : cursor.IsIn text) :
    State.IsIn text { state with left := cursor } :=
  ⟨isIn.cursor, also⟩

end State.IsIn

namespace Attempt.IsIn

variable {attempt : Attempt} {cursor : Cursor}

/-- Another attempt in the text can take the place of a failed one. -/
theorem orElse
    {other : Cursor → Attempt}
    (isIn : attempt.IsIn text)
    (also : ∀ left : Cursor, left.IsIn text → (other left).IsIn text) :
    (attempt.orElse other).IsIn text := by
  cases attempt with
  | matched state =>
      exact isIn
  | failed left =>
      exact also left isIn

/-- Whatever an attempt in the text ends with, one can go on in the text. -/
theorem elim
    {onMatch : State → Attempt}
    {onFailure : Cursor → Attempt} :
    attempt.IsIn text →
    (∀ final : State, final.IsIn text → (onMatch final).IsIn text) →
    (∀ left : Cursor, left.IsIn text → (onFailure left).IsIn text) →
    Attempt.IsIn text
      (match attempt with
      | .matched final => onMatch final
      | .failed left => onFailure left) := by
  intro isIn matched failed
  cases attempt with
  | matched final =>
      exact matched final isIn
  | failed left =>
      exact failed left isIn

/-- A failed attempt can be left at any position of the text. -/
theorem leftAt
    (isIn : attempt.IsIn text)
    (also : cursor.IsIn text) :
    (attempt.leftAt cursor).IsIn text :=
  isIn.orElse fun _ _ => also

end Attempt.IsIn

/-- A part that is matched on its own ends in the text. -/
theorem staysIn_settle : Continuation.StaysIn text settle :=
  fun _ isIn => isIn.beginHere

variable {continuation : Continuation} {state : State}

/-- Going on from some positions in turn, one stays in the text. -/
theorem isIn_tryFrom
    (isOpen : Cursor → Bool)
    (state : State)
    (stays : continuation.StaysIn text)
    {left : Cursor}
    {cursors : List Cursor}
    (leftIsIn : left.IsIn text)
    (areIn : ∀ cursor ∈ cursors, cursor.IsIn text) :
    (tryFrom isOpen state continuation left cursors).IsIn text := by
  induction cursors generalizing left with
  | nil =>
      exact leftIsIn
  | cons cursor others inductionHypothesis =>
      obtain ⟨isIn, othersAreIn⟩ := List.forall_mem_cons.mp areIn
      rw [tryFrom]
      split
      · exact
          (stays _ (.beginAt state isIn)).orElse fun _ leftIsIn =>
            inductionHypothesis leftIsIn othersAreIn
      · exact inductionHypothesis leftIsIn othersAreIn

/-- Repeating a test on single characters, one stays in the text. -/
theorem isIn_runChars
    (mode : RepeatMode)
    (least : Nat)
    (greatest : Option Nat)
    (test : CharTest)
    (next? : Option Nat)
    (isIn : state.IsIn text)
    (stays : continuation.StaysIn text) :
    (runChars mode least greatest test next? state continuation).IsIn text := by
  have reachedIn :
      ∀ (limit : Nat) (cursor : Cursor), cursor.IsIn text →
        ∀ other ∈ Cursor.passes test limit cursor [], other.IsIn text :=
    fun limit _ isIn => isIn.passes limit (List.forall_mem_nil _)
  unfold runChars
  extract_lets start available counted limit reached allowed leftAfter
  split
  · exact isIn.left
  · have leftAfterIn :
        ∀ (limit : Nat) (cursor : Cursor), cursor.IsIn text →
          (leftAfter limit cursor).IsIn text := by
      intro limit cursor isIn
      simp only [leftAfter, counted]
      split
      · cases first : (Cursor.passes test limit cursor []).head? with
        | none =>
            exact isIn
        | some other =>
            exact reachedIn limit cursor isIn other (List.mem_of_mem_head? first)
      · exact isIn
    have allowedIn : ∀ cursor ∈ allowed, cursor.IsIn text :=
      fun cursor member =>
        reachedIn limit start isIn.cursor cursor (List.mem_of_mem_take member)
    cases mode with
    | greedy =>
        exact isIn_tryFrom _ state stays (leftAfterIn limit start isIn.cursor) allowedIn
    | reluctant =>
        have reversedIn : ∀ cursor ∈ allowed.reverse, cursor.IsIn text :=
          fun cursor member => allowedIn cursor (List.mem_reverse.mp member)
        cases shape : allowed with
        | nil =>
            exact leftAfterIn least start isIn.cursor
        | cons last others =>
            have lastIn : last.IsIn text :=
              allowedIn last (by simp [shape])
            rw [shape] at reversedIn
            exact
              (isIn_tryFrom _ state stays lastIn reversedIn).leftAt (leftAfterIn 1 last lastIn)
    | possessive =>
        cases shape : allowed with
        | nil =>
            exact leftAfterIn limit start isIn.cursor
        | cons last others =>
            have lastIn : last.IsIn text :=
              allowedIn last (by simp [shape])
            exact stays _ ((isIn.moveTo lastIn).leftAt (leftAfterIn limit start isIn.cursor))

/-- A part of a pattern that stays in the text, as does what follows it. -/
def StaysIn (text : List Char) (body : State → Continuation → Attempt) : Prop :=
  ∀ (state : State) (continuation : Continuation),
    state.IsIn text → continuation.StaysIn text → (body state continuation).IsIn text

variable {body : State → Continuation → Attempt}

/-- Repeating a part as often as possible, one stays in the text. -/
theorem isIn_runGreedy
    (bodyStays : StaysIn text body)
    (stays : continuation.StaysIn text)
    (least : Nat)
    (greatest : Option Nat)
    (fuel count : Nat)
    (previous : Option Nat)
    (isIn : state.IsIn text) :
    (runGreedy body least greatest continuation fuel count previous state).IsIn text := by
  induction fuel generalizing count previous state with
  | zero =>
      exact isIn.cursor
  | succ fuel inductionHypothesis =>
      have begunIn : state.beginHere.IsIn text :=
        isIn.beginHere
      have turnIn :
          ∀ previous,
            (body state.beginHere
              (runGreedy body least greatest continuation fuel (count + 1) previous)).IsIn text :=
        fun previous =>
          bodyStays _ _ begunIn fun _ isIn => inductionHypothesis (count + 1) previous isIn
      rw [runGreedy]
      refine Attempt.IsIn.leftAt ?_ begunIn.cursor
      split
      · exact turnIn previous
      · split
        · exact (turnIn _).orElse fun _ _ => stays _ begunIn
        · exact stays _ begunIn

/-- Repeating a part as rarely as possible, one stays in the text. -/
theorem isIn_runReluctant
    (bodyStays : StaysIn text body)
    (stays : continuation.StaysIn text)
    (least : Nat)
    (greatest : Option Nat)
    (fuel count : Nat)
    (previous : Option Nat)
    (isIn : state.IsIn text) :
    (runReluctant body least greatest continuation fuel count previous state).IsIn text := by
  induction fuel generalizing count previous state with
  | zero =>
      exact isIn.cursor
  | succ fuel inductionHypothesis =>
      have begunIn : state.beginHere.IsIn text :=
        isIn.beginHere
      have turnIn :
          ∀ previous,
            (body state.beginHere
                (runReluctant body least greatest continuation fuel (count + 1)
                  previous)).IsIn text :=
        fun previous =>
          bodyStays _ _ begunIn fun _ isIn => inductionHypothesis (count + 1) previous isIn
      rw [runReluctant]
      refine Attempt.IsIn.leftAt ?_ begunIn.cursor
      split
      · exact turnIn previous
      · refine (stays _ begunIn).orElse fun left leftIn => ?_
        split
        · exact turnIn _
        · exact leftIn

/-- Repeating a part and settling each turn, one stays in the text. -/
theorem isIn_runPossessive
    (bodyStays : StaysIn text body)
    {origin : Cursor}
    (originIn : origin.IsIn text)
    (least : Nat)
    (greatest : Option Nat)
    (fuel count : Nat)
    (previous : Option Nat)
    (isIn : state.IsIn text) :
    (runPossessive body least greatest origin fuel count previous state).IsIn text := by
  induction fuel generalizing count previous state with
  | zero =>
      exact originIn
  | succ fuel inductionHypothesis =>
      have begunIn : state.beginHere.IsIn text :=
        isIn.beginHere
      have turnIn : (body state.beginHere settle).IsIn text :=
        bodyStays _ _ begunIn staysIn_settle
      rw [runPossessive]
      split
      · refine turnIn.elim (fun _ finalIn => ?_) (fun _ _ => ?_)
        · exact inductionHypothesis (count + 1) previous finalIn
        · exact originIn
      · split
        · refine turnIn.elim (fun _ finalIn => ?_) (fun _ leftIn => ?_)
          · exact inductionHypothesis (count + 1) _ finalIn
          · exact State.IsIn.beginAt _ leftIn
        · exact begunIn

/-- Every attempt at a pattern stays in the text, if what follows the pattern does. -/
theorem Node.staysIn_run
    (node : Node)
    (next? : Option Nat) :
    StaysIn text (node.run next?) := by
  intro state continuation isIn stays
  induction node generalizing next? state continuation with
  | empty =>
      exact stays state isIn
  | never =>
      exact isIn.left
  | char test =>
      rw [Node.run]
      split
      · next further passed =>
        exact stays _ (isIn.moveTo (isIn.cursor.pass? passed))
      · exact isIn.left
  | place condition =>
      rw [Node.run]
      split
      · exact stays state isIn
      · exact isIn.left
  | seq first second firstStays secondStays =>
      rw [Node.run]
      exact firstStays _ _ _ isIn fun _ isIn => secondStays next? _ _ isIn stays
  | alt first others firstStays othersStay =>
      rw [Node.run]
      split
      · exact
          (firstStays none _ _ isIn.beginHere stays).orElse fun _ leftIn =>
            othersStay none _ _ (isIn.leftAt leftIn) stays
      · exact othersStay none _ _ isIn stays
  | group index body bodyStays =>
      rw [Node.run]
      exact
        bodyStays none _ _ ⟨isIn.cursor, isIn.left⟩ fun _ isIn =>
          stays _ ⟨isIn.cursor, isIn.left⟩
  | backReference index casing width =>
      rw [Node.run]
      split
      · next further passed =>
        obtain ⟨captured, _, passed⟩ := Option.bind_eq_some_iff.mp passed
        exact stays _ (isIn.moveTo (isIn.cursor.passText? passed))
      · exact isIn.left
  | lookAhead negated body bodyStays =>
      have bodyIn := bodyStays none _ _ isIn.beginHere staysIn_settle
      cases negated with
      | false =>
          rw [Node.run]
          refine bodyIn.elim (fun _ finalIn => ?_) (fun _ leftIn => ?_)
          · exact stays _ (finalIn.moveTo isIn.cursor)
          · exact leftIn
      | true =>
          rw [Node.run]
          refine bodyIn.elim (fun _ finalIn => ?_) (fun _ leftIn => ?_)
          · exact finalIn.left
          · exact stays _ (isIn.leftAt leftIn)
  | lookBehind negated distance body bodyStays =>
      have bodyIn :
          ∀ earlier, state.cursor.back? distance = some earlier →
            (body.run none (state.beginAt earlier) settle).IsIn text :=
        fun _ wentBack =>
          bodyStays none _ _ (.beginAt state (isIn.cursor.back? wentBack)) staysIn_settle
      cases negated with
      | false =>
          rw [Node.run]
          split
          · exact isIn.left
          · next earlier wentBack =>
            refine (bodyIn earlier wentBack).elim (fun _ finalIn => ?_) (fun _ leftIn => ?_)
            · exact stays _ (finalIn.moveTo isIn.cursor)
            · exact leftIn
      | true =>
          rw [Node.run]
          split
          · exact stays state isIn
          · next earlier wentBack =>
            refine (bodyIn earlier wentBack).elim (fun _ finalIn => ?_) (fun _ leftIn => ?_)
            · exact finalIn.left
            · exact stays _ (isIn.leftAt leftIn)
  | atomic body bodyStays =>
      have bodyIn := bodyStays none _ _ isIn.beginHere staysIn_settle
      rw [Node.run]
      refine bodyIn.elim (fun _ finalIn => ?_) (fun _ _ => ?_)
      · exact stays _ finalIn
      · exact isIn.cursor
  | conditional index whenSet whenUnset setStays unsetStays =>
      rw [Node.run]
      split
      · exact setStays _ _ _ isIn stays
      · exact unsetStays next? _ _ isIn stays
  | loop mode least greatest body bodyStays =>
      by_cases single : ∃ test, body = .char test
      · obtain ⟨test, rfl⟩ := single
        rw [Node.run]
        exact isIn_runChars mode least greatest test next? isIn stays
      · have notChar : ∀ test, body = .char test → False :=
          fun test same => single ⟨test, same⟩
        cases mode with
        | greedy =>
            rw [Node.run]
            · exact isIn_runGreedy (bodyStays none) stays least greatest _ 0 none isIn
            · exact notChar
        | reluctant =>
            rw [Node.run]
            · exact isIn_runReluctant (bodyStays none) stays least greatest _ 0 none isIn
            · exact notChar
        | possessive =>
            rw [Node.run]
            · have endsIn :=
                isIn_runPossessive (bodyStays none) isIn.cursor least greatest
                  (least + state.cursor.behind.length + state.cursor.ahead.length + 3) 0 none isIn
              refine endsIn.elim (fun _ finalIn => ?_) (fun _ leftIn => ?_)
              · exact stays _ finalIn
              · exact leftIn
            · exact notChar

namespace Pattern

variable {pattern : Pattern}

/-- A match at a position of a text ends in the text. -/
theorem stop_le_of_matchAt?
    {cursor : Cursor}
    {stop : Nat}
    (isIn : cursor.IsIn text)
    (matched : pattern.matchAt? cursor = some stop) :
    stop ≤ text.length := by
  let unset : List (Option Cursor) := List.replicate (pattern.groups + 1) none
  have attempted : (pattern.root.run none ⟨cursor, cursor, unset, unset⟩ settle).IsIn text :=
    pattern.root.staysIn_run none _ _ ⟨isIn, isIn⟩ staysIn_settle
  obtain ⟨final, ended, rfl⟩ := Option.map_eq_some_iff.mp matched
  cases attempt : pattern.root.run none ⟨cursor, cursor, unset, unset⟩ settle with
  | failed left =>
      rw [attempt] at ended
      cases ended
  | matched state =>
      rw [attempt] at ended attempted
      cases ended
      exact attempted.cursor.offset_le

/-- A search from a position of a text answers with a place in the text. -/
theorem bounds_of_searchFrom?
    {limit : Nat}
    {behind ahead : List Char}
    {offset : Nat}
    {found : Match}
    (isIn : Cursor.IsIn text ⟨behind, ahead, offset⟩)
    (searched : pattern.searchFrom? limit behind offset ahead = some found) :
    found.start ≤ text.length ∧ found.stop ≤ text.length := by
  induction limit generalizing behind ahead offset with
  | zero =>
      cases searched
  | succ limit inductionHypothesis =>
      unfold searchFrom? at searched
      split at searched
      · next stop matched =>
        cases searched
        exact ⟨isIn.offset_le, stop_le_of_matchAt? isIn matched⟩
      · split at searched
        · cases searched
        · exact inductionHypothesis isIn.step searched

/-- A search answers with a place in the text, whatever the pattern. -/
theorem bounds_of_search?
    {found : Match}
    (searched : pattern.search? text = some found) :
    found.start ≤ text.length ∧ found.stop ≤ text.length :=
  bounds_of_searchFrom? ⟨rfl, rfl⟩ searched

end Pattern

end BlockSync.Regex
