import BlockSync.Text.Blank
import BlockSync.Text.CaseMap
import BlockSync.Text.Digit
import BlockSync.Text.Letter

namespace BlockSync.Regex

/-!
# Tests on single characters

What one position of a pattern accepts: a literal, a set with ranges and categories, or nearly
anything. Without regard to case, a character is compared by its lower case form and by the other
lower case letters that share its capital. A literal without case, and a set without members that
have case, are compared exactly nevertheless.
-/

/-- How letters are compared. -/
inductive Casing where
  | exact
  | ascii
  | unicode
  deriving Repr, DecidableEq

/-- The named classes of characters. -/
inductive Category where
  | digit
  | blank
  | word
  deriving Repr, DecidableEq

/-- A named class or its complement, over all characters or over ASCII alone. -/
structure CategoryTest where
  category : Category
  negated : Bool
  asciiOnly : Bool
  deriving Repr, DecidableEq

/-- A member of a set: a code point, a range of code points, or a category. -/
inductive SetItem where
  | one (code : Nat)
  | span (low high : Nat)
  | category (test : CategoryTest)
  deriving Repr, DecidableEq

/-- What one position of a pattern accepts. -/
inductive CharTest where
  | anything
  | notLineFeed
  | literal (casing : Casing) (negated : Bool) (code : Nat)
  | set (casing : Casing) (negated : Bool) (items : List SetItem)
  deriving Repr, DecidableEq

/-- The letters, digits and the underscore; of all scripts or of ASCII alone. -/
def isWordChar (asciiOnly : Bool) (c : Char) : Bool :=
  if asciiOnly then c.isAlphanum || c == '_' else Text.isAlphanumeric c || c == '_'

/-- Membership in a category or its complement. -/
def CategoryTest.accepts (test : CategoryTest) (c : Char) : Bool :=
  let member :=
    match test.category with
    | .digit => if test.asciiOnly then c.isDigit else Text.isDecimalDigit c
    | .blank => if test.asciiOnly then Text.isAsciiBlank c else Text.isBlank c
    | .word => isWordChar test.asciiOnly c
  member != test.negated

/-- The form in which a code point is compared. -/
def Casing.fold (casing : Casing) (code : Nat) : Nat :=
  match casing with
  | .exact => code
  | .ascii => if 0x41 ≤ code && code ≤ 0x5A then code + 0x20 else code
  | .unicode => Text.lowerCode code

/-- The folded code points that count as equal to a folded code point. -/
def Casing.variants (casing : Casing) (folded : Nat) : List Nat :=
  match casing with
  | .unicode => Text.caseVariants folded
  | _ => [folded]

/-- The code points that fold to a given one. -/
def Casing.sources (casing : Casing) (folded : Nat) : List Nat :=
  match casing with
  | .exact => [folded]
  | .ascii =>
      (if 0x41 ≤ folded && folded ≤ 0x5A then [] else [folded]) ++
        if 0x61 ≤ folded && folded ≤ 0x7A then [folded - 0x20] else []
  | .unicode => Text.lowerSources folded

/-- Whether a character equals a literal under a casing. -/
def Casing.agrees (casing : Casing) (literal code : Nat) : Bool :=
  (casing.variants (casing.fold literal)).contains (casing.fold code)

/-- Whether a range holds a code point that has case under a casing. -/
def Casing.holdsCased (casing : Casing) (low high : Nat) : Bool :=
  match casing with
  | .exact => false
  | .ascii => (low ≤ 0x5A && 0x41 ≤ high) || (low ≤ 0x7A && 0x61 ≤ high)
  | .unicode => Text.holdsCased low high

/-- The last code point of the basic plane. -/
def basicPlaneEnd : Nat := 0xFFFF

/-- Whether a set item is compared by folded forms. Beyond the basic plane every code point is. -/
def SetItem.isCased (casing : Casing) : SetItem → Bool
  | .one code => basicPlaneEnd < code || casing.holdsCased code code
  | .span low high => basicPlaneEnd < high || casing.holdsCased low high
  | .category _ => false

/--
Whether a range accepts a character by folded forms. Within the basic plane, it does when some
character with an equal folded form lies in it; where the range goes on beyond, it also does when
the folded form or its capital lies in it.
-/
def Casing.spans (casing : Casing) (low high code : Nat) : Bool :=
  let folded := casing.fold code
  let holds := fun code => low ≤ code && code ≤ high
  (casing.variants folded).any (fun variant =>
      (casing.sources variant).any fun source => source ≤ basicPlaneEnd && holds source) ||
    basicPlaneEnd < high && (holds folded || holds (Text.upperCode folded))

/--
Whether a set item accepts a character. Beyond the basic plane a single member is compared as it is
written.
-/
def SetItem.accepts (casing : Casing) (item : SetItem) (c : Char) : Bool :=
  let folded := casing.fold c.toNat
  match item with
  | .one code =>
      if basicPlaneEnd < code then folded == code else casing.agrees code c.toNat
  | .span low high =>
      match casing with
      | .exact => low ≤ c.toNat && c.toNat ≤ high
      | _ => casing.spans low high c.toNat
  | .category test => test.accepts (Char.ofNat folded)

/-- The test for a literal, which is exact where the literal has no case. -/
def CharTest.ofLiteral (casing : Casing) (negated : Bool) (code : Nat) : CharTest :=
  .literal (if casing.holdsCased code code then casing else .exact) negated code

/-- The test for a set, which is exact where no member has case. -/
def CharTest.ofItems (casing : Casing) (negated : Bool) (items : List SetItem) : CharTest :=
  .set (if casing ≠ .exact ∧ items.any (·.isCased casing) then casing else .exact) negated items

/-- Whether a test compares folded forms with several alternatives. -/
def CharTest.isFoldedSet : CharTest → Bool
  | .set casing _ _ => casing != .exact
  | .literal .unicode _ code => 1 < (Text.caseVariants (Text.lowerCode code)).length
  | _ => false

/-- Whether a test accepts a character. -/
def CharTest.accepts : CharTest → Char → Bool
  | .anything, _ => true
  | .notLineFeed, c => c != '\n'
  | .literal casing negated code, c => casing.agrees code c.toNat != negated
  | .set casing negated items, c => items.any (·.accepts casing c) != negated

end BlockSync.Regex
