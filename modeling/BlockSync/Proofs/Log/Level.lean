import BlockSync.Log.Level
import Mathlib.Data.List.Basic

namespace BlockSync

/-!
# Levels that are asked for

A text that is all digits has to be a decimal number of a length that can be read, or it is a
failure and not merely no level.  The names of levels are told apart from numbers by their first
letter, since capitals are digits exactly if they are those of a digit.
-/

namespace Text

/-- What went wrong before is not made good by more digits. -/
private theorem foldl_decimalStep_none (digits : List Char) :
    digits.foldl decimalStep none = none := by
  induction digits with
  | nil =>
      rfl
  | cons c rest inductionHypothesis =>
      exact inductionHypothesis

/-- A character has a value exactly if it is a decimal digit. -/
theorem decimalValue?_eq_none_iff {c : Char} :
    decimalValue? c = none ↔ isDecimalDigit c = false := by
  cases isDigit : isDecimalDigit c <;> simp [decimalValue?, isDigit]

/-- Digits go on with a number exactly if all of them are decimal. -/
private theorem foldl_decimalStep_eq_none_iff
    {digits : List Char}
    {start : Nat} :
    digits.foldl decimalStep (some start) = none ↔
      ∃ c ∈ digits, isDecimalDigit c = false := by
  induction digits generalizing start with
  | nil =>
      simp
  | cons c rest inductionHypothesis =>
      rw [List.foldl_cons]
      cases value : decimalValue? c with
      | none =>
          have stopped : decimalStep (some start) c = none := by
            simp [decimalStep, value]
          rw [stopped, foldl_decimalStep_none]
          exact iff_of_true rfl ⟨c, List.mem_cons_self, decimalValue?_eq_none_iff.mp value⟩
      | some digit =>
          have isDecimal : isDecimalDigit c ≠ false := by
            intro notDecimal
            rw [decimalValue?_eq_none_iff.mpr notDecimal] at value
            cases value
          have stepped : decimalStep (some start) c = some (10 * start + digit) := by
            simp [decimalStep, value]
          rw [stepped, inductionHypothesis]
          simp [isDecimal]

/-- A number goes on to zero exactly if it is zero so far and all digits are. -/
private theorem foldl_decimalStep_eq_zero_iff
    {digits : List Char}
    {start : Nat} :
    digits.foldl decimalStep (some start) = some 0 ↔
      start = 0 ∧ ∀ c ∈ digits, decimalValue? c = some 0 := by
  induction digits generalizing start with
  | nil =>
      simp
  | cons c rest inductionHypothesis =>
      rw [List.foldl_cons, List.forall_mem_cons]
      cases value : decimalValue? c with
      | none =>
          have stopped : decimalStep (some start) c = none := by
            simp [decimalStep, value]
          rw [stopped, foldl_decimalStep_none]
          simp
      | some digit =>
          have stepped : decimalStep (some start) c = some (10 * start + digit) := by
            simp [decimalStep, value]
          rw [stepped, inductionHypothesis, Option.some.injEq]
          constructor
          · rintro ⟨zero, others⟩
            exact ⟨by omega, by omega, others⟩
          · rintro ⟨zero, isZero, others⟩
            exact ⟨by omega, others⟩

/-- Digits are a number exactly if there are any and all are decimal. -/
theorem decimalNumber?_eq_none_iff
    {digits : List Char} :
    decimalNumber? digits = none ↔ digits = [] ∨ ∃ c ∈ digits, isDecimalDigit c = false := by
  cases digits with
  | nil =>
      simp [decimalNumber?]
  | cons c rest =>
      have read : decimalNumber? (c :: rest) = (c :: rest).foldl decimalStep (some 0) := rfl
      rw [read, foldl_decimalStep_eq_none_iff]
      simp

/-- A number is zero exactly if it has digits and all of them are zero. -/
theorem decimalNumber?_eq_zero_iff
    {digits : List Char} :
    decimalNumber? digits = some 0 ↔ digits ≠ [] ∧ ∀ c ∈ digits, decimalValue? c = some 0 := by
  cases digits with
  | nil =>
      simp [decimalNumber?]
  | cons c rest =>
      have read : decimalNumber? (c :: rest) = (c :: rest).foldl decimalStep (some 0) := rfl
      rw [read, foldl_decimalStep_eq_zero_iff]
      simp

end Text

namespace LogLevel

/-- The capitals of ASCII are ASCII, and its digits have no others. -/
private theorem toUpper_ascii
    {c : Char}
    (isAscii : c.toNat < 0x80) :
    c.toUpper.toNat < 0x80 ∧ c.toUpper.isDigit = c.isDigit ∧
      (c.isDigit = true → c.toUpper = c) := by
  have table : ∀ code : Fin 0x80,
      let c := Char.ofNat code
      c.toUpper.toNat < 0x80 ∧ c.toUpper.isDigit = c.isDigit ∧
        (c.isDigit = true → c.toUpper = c) := by
    decide +kernel
  simpa using table ⟨c.toNat, isAscii⟩

/-- A digit is its own capital, and no other character has digits as capitals. -/
private theorem capitals_spec (c : Char) :
    (capitals c).all Text.isDigit = Text.isDigit c ∧
      (Text.isDigit c = true → capitals c = [c]) ∧
      capitals c ≠ [] := by
  by_cases isAscii : c.toNat < 0x80
  · obtain ⟨upperIsAscii, sameClass, ownCapital⟩ := toUpper_ascii isAscii
    rw [capitals, if_pos isAscii, List.all_cons, List.all_nil, Bool.and_true, Text.isDigit,
      Text.isDigit, if_pos upperIsAscii, if_pos isAscii]
    exact ⟨sameClass, fun isDigit => by rw [ownCapital isDigit], List.cons_ne_nil _ _⟩
  · rw [capitals, if_neg isAscii]
    split
    case h_11 =>
      exact ⟨by simp, fun _ => rfl, List.cons_ne_nil _ _⟩
    all_goals
      next special =>
        have noDigit : Text.isDigit c = false := by
          rw [Text.isDigit, if_neg isAscii, special]
          decide +kernel
        rw [noDigit]
        exact ⟨by decide +kernel, nofun, List.cons_ne_nil _ _⟩

/-- What a text asks for: all of it but the blank characters at both ends. -/
def request (text : String) : List Char :=
  Text.trim text.toList

/-- The capitals of a request, among which the names of levels are looked up. -/
def requestedName (text : String) : List Char :=
  (request text).flatMap capitals

/-- A request in digits is its own name. -/
private theorem requestedName_of_digits
    {text : String}
    (digits : ∀ c ∈ request text, Text.isDigit c = true) :
    requestedName text = request text := by
  rw [requestedName, List.flatMap_congr fun c member => (capitals_spec c).2.1 (digits c member)]
  exact List.flatMap_singleton' _

/-- A request for nothing is read as such. -/
private theorem parse_of_nil
    {text : String}
    (nothing : request text = []) :
    parse text = .ok none := by
  have noWord : (Text.trim text.toList).flatMap capitals = [] := by
    rw [show Text.trim text.toList = [] from nothing, List.flatMap_nil]
  simp [parse, noWord]

/-- A request in digits is read as a number. -/
private theorem parse_of_digits
    {text : String}
    (asks : request text ≠ [])
    (digits : ∀ c ∈ request text, Text.isDigit c = true) :
    parse text =
      match Text.decimalNumber? (request text) with
      | none => .error (.notDecimal (String.ofList (request text)))
      | some level =>
          if Text.digitLimit < (request text).length then
            .error (.tooLong (request text).length)
          else
            .ok (some level) := by
  have word : (Text.trim text.toList).flatMap capitals = request text :=
    requestedName_of_digits digits
  have isWord : (request text).isEmpty = false := by
    simpa using asks
  have allDigits : (request text).all Text.isDigit = true :=
    List.all_eq_true.mpr digits
  cases number : Text.decimalNumber? (request text) with
  | none =>
      simp [parse, word, isWord, allDigits, number]
  | some level =>
      simp [parse, word, isWord, allDigits, number]

/-- A request that is not written in digits is read as a name. -/
private theorem parse_of_name
    {text : String}
    (undigital : ¬ ∀ c ∈ request text, Text.isDigit c = true) :
    parse text = .ok (ofName? (String.ofList (requestedName text))) := by
  have asks : requestedName text ≠ [] := by
    rw [requestedName]
    intro noCapitals
    refine undigital fun c member => ?_
    exact ((capitals_spec c).2.2 (List.flatMap_eq_nil_iff.mp noCapitals c member)).elim
  have isWord : (requestedName text).isEmpty = false := by
    simpa using asks
  have notAllDigits : (requestedName text).all Text.isDigit = false := by
    rw [requestedName, List.all_flatMap]
    simp only [(capitals_spec _).1]
    rwa [← Bool.not_eq_true, List.all_eq_true]
  rw [requestedName] at isWord notAllDigits
  rw [request] at isWord notAllDigits
  simp only [parse, isWord, notAllDigits, Bool.false_eq_true, ↓reduceIte]
  rfl

/-- Whether a text asks for a number that stands for no level. -/
def IsFaulty (text : String) : Prop :=
  request text ≠ [] ∧
    (∀ c ∈ request text, Text.isDigit c = true) ∧
    ((∃ c ∈ request text, Text.isDecimalDigit c = false) ∨
      Text.digitLimit < (request text).length)

/-- Whether a text asks for a faulty number can be computed. -/
instance (text : String) : Decidable (IsFaulty text) :=
  decidable_of_iff
    (request text ≠ [] ∧ (request text).all Text.isDigit = true ∧
      ((request text).all Text.isDecimalDigit = false ∨
        Text.digitLimit < (request text).length))
    (by simp [IsFaulty])

/-- Whether a text asks for the lowest level, by its name or by a number. -/
def IsLowest (text : String) : Prop :=
  requestedName text = "NOTSET".toList ∨
    request text ≠ [] ∧
      (∀ c ∈ request text, Text.isDigit c = true ∧ Text.decimalValue? c = some 0) ∧
      (request text).length ≤ Text.digitLimit

/-- Whether a text asks for the lowest level can be computed. -/
instance (text : String) : Decidable (IsLowest text) :=
  decidable_of_iff
    (requestedName text = "NOTSET".toList ∨
      request text ≠ [] ∧
        (request text).all (fun c => Text.isDigit c && Text.decimalValue? c == some 0) = true ∧
        (request text).length ≤ Text.digitLimit)
    (by simp [IsLowest])

/-- A text fails to be read exactly if it asks for a number that stands for no level. -/
theorem exists_parse_eq_error_iff
    {text : String} :
    (∃ error, parse text = .error error) ↔ IsFaulty text := by
  by_cases asks : request text = []
  · rw [parse_of_nil asks]
    exact iff_of_false nofun fun faulty => faulty.1 asks
  by_cases digits : ∀ c ∈ request text, Text.isDigit c = true
  · rw [parse_of_digits asks digits]
    cases number : Text.decimalNumber? (request text) with
    | none =>
        have undecimal := (Text.decimalNumber?_eq_none_iff.mp number).resolve_left asks
        exact iff_of_true ⟨_, rfl⟩ ⟨asks, digits, .inl undecimal⟩
    | some level =>
        have decimal : ¬ ∃ c ∈ request text, Text.isDecimalDigit c = false := by
          intro undecimal
          rw [Text.decimalNumber?_eq_none_iff.mpr (.inr undecimal)] at number
          cases number
        dsimp only
        split
        · next tooLong =>
          exact iff_of_true ⟨_, rfl⟩ ⟨asks, digits, .inr tooLong⟩
        · next readable =>
          refine iff_of_false nofun ?_
          rintro ⟨_, _, undecimal | tooLong⟩
          · exact decimal undecimal
          · exact readable tooLong
  · rw [parse_of_name digits]
    exact iff_of_false nofun fun faulty => digits faulty.2.1

/-- Of all names that of the lowest level alone stands for it. -/
private theorem ofName?_eq_all_iff
    {name : String} :
    ofName? name = some all ↔ name = "NOTSET" := by
  constructor
  · rw [ofName?.eq_def]
    split <;> simp_all [all, trace, debug, info, warning, error, critical]
  · rintro rfl
    rfl

/-- A text is read as the lowest level exactly if it asks for it. -/
theorem parse_eq_all_iff
    {text : String} :
    parse text = .ok (some all) ↔ IsLowest text := by
  by_cases asks : request text = []
  · rw [parse_of_nil asks, IsLowest, requestedName, asks]
    exact iff_of_false nofun (by decide)
  by_cases digits : ∀ c ∈ request text, Text.isDigit c = true
  · have noName : requestedName text ≠ "NOTSET".toList := by
      rw [requestedName_of_digits digits]
      intro isName
      have isDigit := digits 'N' (by rw [isName]; decide)
      revert isDigit
      decide
    rw [parse_of_digits asks digits, IsLowest, or_iff_right noName]
    constructor
    · intro isLowest
      split at isLowest
      · cases isLowest
      · next level number =>
        split at isLowest
        · cases isLowest
        · next readable =>
          have zero : level = 0 := by
            simpa [all] using isLowest
          rw [zero, Text.decimalNumber?_eq_zero_iff] at number
          refine ⟨asks, fun c member => ⟨digits c member, number.2 c member⟩, ?_⟩
          exact Nat.le_of_not_lt readable
    · rintro ⟨_, zeros, readable⟩
      have number : Text.decimalNumber? (request text) = some 0 :=
        Text.decimalNumber?_eq_zero_iff.mpr ⟨asks, fun c member => (zeros c member).2⟩
      rw [number]
      exact if_neg (Nat.not_lt_of_le readable)
  · rw [parse_of_name digits, Except.ok.injEq, ofName?_eq_all_iff, IsLowest, ← String.toList_inj,
      String.toList_ofList, or_iff_left]
    exact fun isNumber => digits fun c member => (isNumber.2.1 c member).1

end LogLevel

end BlockSync
