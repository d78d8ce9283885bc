import BlockSync.Diff.Matching

namespace BlockSync.Cli

/-!
# Close names

A name that is not known may be meant for one that is. Two names are the closer, the larger the
share of their characters in common runs. At most three names are close, and each of them shares
at least six characters of ten.
-/

/-- How close a name comes: twice the common characters, and the characters of both names. -/
structure Closeness where
  common : Nat
  total : Nat
  deriving Repr, DecidableEq

namespace Closeness

/-- How close a name comes to a word. -/
def of (word name : String) : Closeness :=
  ⟨2 * Diff.commonLength name.toList word.toList, name.length + word.length⟩

/-- Whether at least six characters of ten are in common. -/
def isEnough (closeness : Closeness) : Bool :=
  closeness.total = 0 || 6 * closeness.total ≤ 10 * closeness.common

/-- Whether one comes at least as close as another. -/
def atLeast (closeness other : Closeness) : Bool :=
  decide (other.common * closeness.total ≤ closeness.common * other.total)

end Closeness

/-- How many names are close at most. -/
def closeLimit : Nat := 3

/-- The names that come close to a word, in order. Of equally close names the last ones count. -/
def closeNames (word : String) (names : List String) : List String :=
  let candidates := (names.map fun name => (Closeness.of word name, name)).filter (·.1.isEnough)
  let byName := candidates.mergeSort fun a b => decide (b.2 ≤ a.2)
  let closest := (byName.mergeSort fun a b => a.1.atLeast b.1).take closeLimit
  (closest.map (·.2)).mergeSort fun a b => decide (a ≤ b)

end BlockSync.Cli
