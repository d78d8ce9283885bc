import BlockSync.Block.Fingerprint
import BlockSync.Proofs.Regex.Repeat
import BlockSync.Proofs.Text.Word

namespace BlockSync.Fingerprint

open Regex

/-!
# Reading fingerprints back

A fingerprint is a leading word and forty digits.  It is found in a line if no such token stands
in front of it and no word character behind it.
-/

/-- The texts that look like a fingerprint, whatever payload they may belong to. -/
def IsToken (token : List Char) : Prop :=
  ∃ digits,
    token = leader ++ digits ∧
      digits.length = 40 ∧
      ∀ c ∈ digits, digitTest.accepts c = true

/-- Whether some part of a text looks like a fingerprint. -/
def HoldsToken (text : List Char) : Prop :=
  ∃ token, IsToken token ∧ token <:+: text

/-- A digit of a digest is a decimal digit or one of six small letters. -/
theorem digitTest_accepts_iff (c : Char) :
    digitTest.accepts c = true ↔
      (48 ≤ c.toNat ∧ c.toNat ≤ 57) ∨ (97 ≤ c.toNat ∧ c.toNat ≤ 102) := by
  have codes :
      '0'.toNat = 48 ∧ '9'.toNat = 57 ∧ 'a'.toNat = 97 ∧ 'f'.toNat = 102 := by
    decide
  simp [digitTest, CharTest.accepts, SetItem.accepts, codes]

/-- A digit of a digest is a word character. -/
theorem isWordChar_of_digit
    {c : Char}
    (digit : digitTest.accepts c = true) :
    isWordChar false c = true := by
  have low : ∀ n < 10, isWordChar false (Char.ofNat (48 + n)) = true := by
    decide
  have high : ∀ n < 6, isWordChar false (Char.ofNat (97 + n)) = true := by
    decide
  rw [← Char.ofNat_toNat c]
  rcases (digitTest_accepts_iff c).mp digit with ⟨above, below⟩ | ⟨above, below⟩
  · simpa [Nat.add_sub_cancel' above] using low (c.toNat - 48) (by omega)
  · simpa [Nat.add_sub_cancel' above] using high (c.toNat - 97) (by omega)

/-- Every hexadecimal digit of a word is a digit of a digest. -/
theorem accepts_hexDigit
    (word : UInt32)
    (place : Nat) :
    digitTest.accepts (Digest.hexDigit word place) = true := by
  have all : ∀ n < 16, digitTest.accepts (Nat.digitChar n) = true := by
    decide
  exact all _ (Nat.mod_lt _ (by decide))

/-- The fingerprint of a payload looks like one. -/
theorem isToken_ofPayload (payload : String) : IsToken (ofPayload payload) := by
  refine ⟨Digest.sha1 payload.toUTF8.data.toList, rfl, ?_, ?_⟩
  · simp [Digest.sha1, Digest.hexWord]
  · intro c member
    simp only [Digest.sha1, Digest.hexWord, List.mem_flatMap, List.mem_map] at member
    obtain ⟨word, _, place, _, rfl⟩ := member
    exact accepts_hexDigit word place

namespace IsToken

/-- All tokens have one length. -/
theorem length_eq
    {token : List Char}
    (isToken : IsToken token) :
    token.length = 45 := by
  obtain ⟨digits, rfl, length, _⟩ := isToken
  rw [List.length_append, length]
  rfl

/-- A token is not empty. -/
theorem ne_nil
    {token : List Char}
    (isToken : IsToken token) :
    token ≠ [] :=
  List.ne_nil_of_length_pos (by rw [isToken.length_eq]; decide)

/-- A character that is neither in the leading word nor a digit is in no token. -/
theorem notMem
    {token : List Char}
    (isToken : IsToken token)
    {c : Char}
    (notLeading : c ∉ leader)
    (notDigit : digitTest.accepts c = false) :
    c ∉ token := by
  obtain ⟨digits, rfl, _, accepted⟩ := isToken
  rw [List.mem_append, not_or]
  refine ⟨notLeading, fun member => ?_⟩
  rw [accepted c member] at notDigit
  cases notDigit

end IsToken

/-- A short text holds no token. -/
theorem not_holdsToken_of_length_lt
    {text : List Char}
    (short : text.length < 45) :
    ¬ HoldsToken text := by
  rintro ⟨token, isToken, inText⟩
  have fits := inText.length_le
  rw [isToken.length_eq] at fits
  omega

/-- The condition behind the digits asks for no literal. -/
private theorem firstLiteral?_wordBoundary :
    (Node.place (.wordBoundary false)).firstLiteral? none = none :=
  rfl

/-- A match starts with a token. -/
theorem exists_token_of_matchesBetween
    {before after : List Char}
    {stop : Nat}
    (found : pattern.MatchesBetween before after stop) :
    ∃ token rest, after = token ++ rest ∧ IsToken token := by
  obtain ⟨state, cursor, matchesIff⟩ :=
    Pattern.exists_start pattern before after
  rw [matchesIff, pattern, Node.run] at found
  by_cases ahead : leader <+: after
  · obtain ⟨rest, rfl⟩ := ahead
    rw [Node.run_ofText _ state _ (by rw [cursor]), Node.run] at found
    obtain ⟨digits, others, shape, length, accepted⟩ :=
      Node.exists_of_run_fixedRepeat fun none => by
        rw [none] at found
        cases found
    refine ⟨leader ++ digits, others, ?_, digits, rfl, length, accepted⟩
    rw [List.append_assoc]
    exact congrArg (leader ++ ·) shape
  · rw [Node.run_ofText_of_not_prefix _ state _ (by rwa [cursor])] at found
    cases found

/-- A token is matched, up to its end, exactly if no word character follows it. -/
theorem matchesBetween_token_iff
    {token rest : List Char}
    {stop : Nat}
    (before : List Char)
    (isToken : IsToken token) :
    pattern.MatchesBetween before (token ++ rest) stop ↔
      (∀ c ∈ rest.head?, isWordChar false c = false) ∧ before.length + token.length = stop := by
  obtain ⟨digits, rfl, length, accepted⟩ := isToken
  obtain ⟨last, earlier, reversed⟩ :
      ∃ last earlier, digits.reverse = last :: earlier := by
    apply List.exists_cons_of_ne_nil
    intro empty
    rw [← List.length_reverse, empty] at length
    cases length
  have lastIsWord : isWordChar false last = true := by
    apply isWordChar_of_digit
    apply accepted
    rw [← List.mem_reverse, reversed]
    simp
  have nextIsNone :
      (∀ c ∈ rest.head?, isWordChar false c = false) ↔
        rest.head?.any (isWordChar false) = false := by
    cases rest with
    | nil =>
        simp
    | cons c others =>
        simp
  obtain ⟨state, cursor, matchesIff⟩ :=
    Pattern.exists_start pattern before ((leader ++ digits) ++ rest)
  rw [matchesIff, pattern, Node.run,
    Node.run_ofText _ state _ (by rw [cursor, List.append_assoc]),
    Node.run, firstLiteral?_wordBoundary, ← length,
    Node.run_fixedRepeat _ _ rfl accepted, nextIsNone]
  cases next : rest.head?.any (isWordChar false) with
  | false =>
      simp [Node.run, Place.holds, State.beginAt, State.moveTo, reversed, lastIsWord, next,
        settle, State.beginHere, Attempt.state?, cursor, Nat.add_assoc]
  | true =>
      simp [Node.run, Place.holds, State.beginAt, State.moveTo, reversed, lastIsWord, next,
        Attempt.state?, cursor]

/-- The matches are the tokens that no word character follows. -/
theorem matchesBetween_iff
    {before after : List Char}
    {stop : Nat} :
    pattern.MatchesBetween before after stop ↔
      ∃ token rest,
        after = token ++ rest ∧
          IsToken token ∧
          (∀ c ∈ rest.head?, isWordChar false c = false) ∧
          before.length + token.length = stop := by
  constructor
  · intro found
    obtain ⟨token, rest, rfl, isToken⟩ := exists_token_of_matchesBetween found
    exact ⟨token, rest, rfl, isToken, (matchesBetween_token_iff before isToken).mp found⟩
  · rintro ⟨token, rest, rfl, isToken, found⟩
    exact (matchesBetween_token_iff before isToken).mpr found

/-- A pattern for tokens asks for no more characters than a token has. -/
theorem least_width_pattern : pattern.root.width.least = 45 := by
  decide

/-- No fingerprint is shorter than its pattern promises. -/
theorem widthSound_pattern : pattern.WidthSound := by
  intro before after stop found
  obtain ⟨token, rest, rfl, isToken⟩ := exists_token_of_matchesBetween found
  rw [least_width_pattern, List.length_append, isToken.length_eq]
  omega

/-- A token of a line that no word character follows, and what stands around it. -/
structure Stands (line before token rest : List Char) : Prop where
  shape :
    line = before ++ (token ++ rest)
  isToken :
    IsToken token
  ends :
    ∀ c ∈ rest.head?, isWordChar false c = false

/-- No fingerprint is found exactly if no token stands in the line. -/
theorem find?_eq_none_iff {line : Text.Line} :
    find? line = none ↔ ∀ before token rest, ¬ Stands line before token rest := by
  rw [find?, Option.map_eq_none_iff, Pattern.search?_eq_none_iff widthSound_pattern]
  constructor
  · rintro unmatched before token rest ⟨shape, isToken, ends⟩
    exact unmatched before _ _ shape (matchesBetween_iff.mpr ⟨token, rest, rfl, isToken, ends, rfl⟩)
  · rintro nothing before after stop shape matched
    obtain ⟨token, rest, rfl, isToken, ends, _⟩ := matchesBetween_iff.mp matched
    exact nothing before token rest ⟨shape, isToken, ends⟩

/-- A fingerprint that is found is the first token that stands in the line. -/
theorem exists_first_of_find?
    {line : Text.Line}
    {token : Fingerprint}
    (found : find? line = some token) :
    ∃ before rest,
      Stands line before token rest ∧
        ∀ earlier other later,
          Stands line earlier other later →
          before.length ≤ earlier.length := by
  obtain ⟨place, searched, rfl⟩ := Option.map_eq_some_iff.mp found
  obtain ⟨before, after, rfl, starts, matched, isFirst⟩ :=
    Pattern.exists_of_search?_eq_some widthSound_pattern searched
  obtain ⟨token, rest, rfl, isToken, ends, reached⟩ := matchesBetween_iff.mp matched
  have slice :
      ((before ++ (token ++ rest)).drop place.start).take (place.stop - place.start) = token := by
    simp [starts, ← reached]
  rw [slice]
  refine ⟨before, rest, ⟨rfl, isToken, ends⟩, fun earlier other later stands => ?_⟩
  by_contra shorter
  exact
    isFirst earlier (other ++ later) _ stands.shape (Nat.not_le.mp shorter)
      (matchesBetween_iff.mpr ⟨other, later, rfl, stands.isToken, stands.ends, rfl⟩)

/-- The first token that stands in a line is the fingerprint that is found. -/
theorem Stands.find?_eq
    {line before token rest : List Char}
    (stands : Stands line before token rest)
    (first :
      ∀ earlier other later,
        Stands line earlier other later →
        before.length ≤ earlier.length) :
    find? line = some token := by
  cases found : find? line with
  | none =>
      exact (find?_eq_none_iff.mp found before token rest stands).elim
  | some answer =>
      obtain ⟨earlier, later, answerStands, answerFirst⟩ := exists_first_of_find? found
      have sameStart : before.length = earlier.length :=
        Nat.le_antisymm (first _ _ _ answerStands) (answerFirst _ _ _ stands)
      have sameLength : token.length = answer.length :=
        stands.isToken.length_eq.trans answerStands.isToken.length_eq.symm
      obtain ⟨_, sameRest⟩ :=
        List.append_inj (stands.shape.symm.trans answerStands.shape) sameStart
      exact congrArg some (List.append_inj sameRest sameLength).1.symm

section Separator

variable
  {separator : Char}
  (notLeading : separator ∉ leader)
  (notDigit : digitTest.accepts separator = false)
  (notWord : isWordChar false separator = false)

include notLeading notDigit notWord

/-- A token stands on one side of a character that no token has and that is no word character. -/
theorem stands_beside_separator_iff
    {left right before token rest : List Char} :
    Stands (left ++ separator :: right) before token rest ↔
      (∃ middle, rest = middle ++ separator :: right ∧ Stands left before token middle) ∨
        ∃ middle, before = left ++ separator :: middle ∧ Stands right middle token rest := by
  have endsBeside :
      ∀ middle : List Char,
        (∀ c ∈ (middle ++ separator :: right).head?, isWordChar false c = false) ↔
          ∀ c ∈ middle.head?, isWordChar false c = false := by
    intro middle
    cases middle <;> simp [notWord]
  constructor
  · rintro ⟨shape, isToken, ends⟩
    rcases Text.occurrence_beside_separator isToken.ne_nil (isToken.notMem notLeading notDigit)
        shape.symm with ⟨middle, leftShape, rfl⟩ | ⟨middle, rfl, rightShape⟩
    · exact Or.inl ⟨middle, rfl, leftShape, isToken, (endsBeside middle).mp ends⟩
    · exact Or.inr ⟨middle, rfl, rightShape, isToken, ends⟩
  · rintro (⟨middle, rfl, leftShape, isToken, ends⟩ | ⟨middle, rfl, rightShape, isToken, ends⟩)
    · exact ⟨by simp [leftShape], isToken, (endsBeside middle).mpr ends⟩
    · exact ⟨by simp [rightShape], isToken, ends⟩

/-- A fingerprint is sought in front of such a character first, and then behind it. -/
theorem find?_beside_separator (left right : List Char) :
    find? (left ++ separator :: right) = (find? left).or (find? right) := by
  have stands_iff :
      ∀ {before token rest : List Char},
        Stands (left ++ separator :: right) before token rest ↔ _ :=
    stands_beside_separator_iff notLeading notDigit notWord
  cases foundLeft : find? left with
  | some token =>
      obtain ⟨before, middle, stands, first⟩ := exists_first_of_find? foundLeft
      have here := stands_iff.mpr (Or.inl ⟨middle, rfl, stands⟩)
      refine here.find?_eq fun earlier other later found => ?_
      rcases stands_iff.mp found with ⟨_, _, inLeft⟩ | ⟨between, rfl, _⟩
      · exact first _ _ _ inLeft
      · have length := congrArg List.length stands.shape
        simp only [List.length_append, List.length_cons] at length ⊢
        omega
  | none =>
      have leftEmpty := find?_eq_none_iff.mp foundLeft
      rw [Option.none_or]
      cases foundRight : find? right with
      | none =>
          have rightEmpty := find?_eq_none_iff.mp foundRight
          refine find?_eq_none_iff.mpr fun before token rest found => ?_
          rcases stands_iff.mp found with ⟨_, _, inLeft⟩ | ⟨_, _, inRight⟩
          · exact leftEmpty _ _ _ inLeft
          · exact rightEmpty _ _ _ inRight
      | some token =>
          obtain ⟨middle, rest, stands, first⟩ := exists_first_of_find? foundRight
          have here := stands_iff.mpr (Or.inr ⟨middle, rfl, stands⟩)
          refine here.find?_eq fun earlier other later found => ?_
          rcases stands_iff.mp found with ⟨_, _, inLeft⟩ | ⟨between, rfl, inRight⟩
          · exact (leftEmpty _ _ _ inLeft).elim
          · have length := first _ _ _ inRight
            simp only [List.length_append, List.length_cons]
            omega

end Separator

/-- A text that holds no token has no fingerprint. -/
theorem find?_eq_none_of_not_holdsToken
    {text : List Char}
    (tokenless : ¬ HoldsToken text) :
    find? text = none := by
  refine find?_eq_none_iff.mpr fun before token rest stands => tokenless ?_
  exact ⟨token, stands.isToken, before, rest, by rw [stands.shape, List.append_assoc]⟩

/-- A token that starts a line and ends there is the fingerprint that is found. -/
theorem find?_token_append
    {token rest : List Char}
    (isToken : IsToken token)
    (ends : ∀ c ∈ rest.head?, isWordChar false c = false) :
    find? (token ++ rest) = some token :=
  Stands.find?_eq ⟨(List.nil_append _).symm, isToken, ends⟩ fun _ _ _ _ => Nat.zero_le _

/-- A carriage return is no word character, so it ends a token as the end of a line does. -/
private theorem ends_append_return_iff {rest : List Char} :
    (∀ c ∈ (rest ++ ['\r']).head?, isWordChar false c = false) ↔
      ∀ c ∈ rest.head?, isWordChar false c = false := by
  cases rest with
  | nil =>
      have notWord : isWordChar false '\r' = false := by
        decide
      simp [notWord]
  | cons c others =>
      simp

/-- A carriage return at the end of a line neither makes nor spoils a match. -/
private theorem matchesBetween_append_return_iff
    {before after : List Char}
    {stop : Nat} :
    pattern.MatchesBetween before (after ++ ['\r']) stop ↔
      pattern.MatchesBetween before after stop := by
  rw [matchesBetween_iff, matchesBetween_iff]
  constructor
  · rintro ⟨token, rest, shape, isToken, ends, reached⟩
    have returnless : '\r' ∉ token :=
      isToken.notMem (by decide) (by decide)
    rcases List.append_eq_append_iff.mp shape with ⟨gap, rfl, tail⟩ | ⟨gap, rfl, rfl⟩
    · obtain rfl : gap = [] := by
        cases gap with
        | nil =>
            rfl
        | cons c others =>
            rw [List.cons_append, List.cons.injEq] at tail
            exact (returnless (by simp [← tail.1])).elim
      exact ⟨_, [], by simp, isToken, by simp, reached⟩
    · exact ⟨token, gap, rfl, isToken, ends_append_return_iff.mp ends, reached⟩
  · rintro ⟨token, rest, rfl, isToken, ends, reached⟩
    exact
      ⟨token, rest ++ ['\r'], by simp, isToken, ends_append_return_iff.mpr ends, reached⟩

/-- The same fingerprint is found in a line with a carriage return at its end and without it. -/
@[simp] theorem find?_append_return (line : Text.Line) :
    find? (line ++ ['\r']) = find? line := by
  have searched : pattern.search? (line ++ ['\r']) = pattern.search? line := by
    apply Pattern.search?_append widthSound_pattern
    · intro before after stop _
      exact matchesBetween_append_return_iff
    · intro before after stop shape nonempty matched
      obtain ⟨token, rest, rfl, isToken, _⟩ := matchesBetween_iff.mp matched
      have length := congrArg List.length shape
      have hasStart := List.length_pos_of_ne_nil nonempty
      have hasToken := List.length_pos_of_ne_nil isToken.ne_nil
      simp only [List.length_append, List.length_singleton] at length
      omega
  rw [find?, find?, searched]
  cases answer : pattern.search? line with
  | none =>
      rfl
  | some found =>
      obtain ⟨before, after, rfl, starts, matched, _⟩ :=
        Pattern.exists_of_search?_eq_some widthSound_pattern answer
      obtain ⟨token, rest, rfl, _, _, reached⟩ := matchesBetween_iff.mp matched
      simp [starts, ← reached]

end BlockSync.Fingerprint
