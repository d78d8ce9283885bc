namespace BlockSync.Cli

/-!
# Verbosity

Each flag for more output raises the verbosity by one; any flag for less output makes it quiet.
The two do not go together.
-/

/-- How much is shown: below zero only failures, above one also what stays unchanged. -/
abbrev Verbosity := Int

namespace Verbosity

/-- The verbosity at which only failures are shown. -/
def quiet : Verbosity := -1

/-- The message when flags for more and for less output come together. -/
def conflict : String := "The '--verbose' and '--quiet' options are mutually exclusive."

/-- The verbosity that numbers of flags ask for, unless they ask for both. -/
def ofCounts? (more less : Nat) : Option Verbosity :=
  if 0 < more ∧ 0 < less then none
  else if 0 < less then some quiet
  else some more

end Verbosity

end BlockSync.Cli
