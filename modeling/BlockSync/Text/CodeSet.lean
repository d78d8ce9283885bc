namespace BlockSync.Text

/-!
# Sets of code points

A property of characters is stored as the increasing list of code points at which it switches
between false and true. A code point has the property exactly when an odd number of switches lies
at or below it, which a bisection counts.
-/

/-- A set of code points, given by the increasing code points at which membership switches. -/
structure CodeSet where
  bounds : Array Nat

namespace CodeSet

/--
Bisection for the number of bounds at or below a code point. Each step halves the interval, so
fuel of one more than the number of binary digits of its length is enough.
-/
def rankFrom (bounds : Array Nat) (code : Nat) : Nat → Nat → Nat → Nat
  | 0, low, _ => low
  | fuel + 1, low, high =>
      if low < high then
        let middle := (low + high) / 2
        if bounds.getD middle 0 ≤ code then
          rankFrom bounds code fuel (middle + 1) high
        else
          rankFrom bounds code fuel low middle
      else
        low

/-- The number of bounds at or below a code point. -/
def rank (set : CodeSet) (code : Nat) : Nat :=
  rankFrom set.bounds code (set.bounds.size.log2 + 2) 0 set.bounds.size

/-- Membership: an odd number of switches lies at or below the code point. -/
def contains (set : CodeSet) (code : Nat) : Bool :=
  set.rank code % 2 == 1

/-- The first code point of the run that holds a member. -/
def runStart (set : CodeSet) (code : Nat) : Nat :=
  set.bounds.getD (set.rank code - 1) 0

end CodeSet

end BlockSync.Text
