namespace BlockSync.Diff

/-!
# Matching sequences

Two sequences are matched by their longest common run, then by the longest common runs on either
side of it, and so on. Of several longest runs the first is taken. Items that are very frequent in
a long second sequence do not start a run, they only extend one.
-/

/-- A common run: where it starts in either sequence, and its length. -/
structure Run where
  left : Nat
  right : Nat
  length : Nat
  deriving Repr, DecidableEq

/-- Two sequences, with the places on the right where an item on the left can start a run. -/
structure Sides (α : Type) where
  left : Array α
  right : Array α
  seeds : Array (List Nat)

/-- The places of an item. -/
def placesOf [BEq α] (items : List α) (item : α) : List Nat :=
  (items.zipIdx.filter fun (other, _) => other == item).map (·.2)

/-- Whether an item occurs too often in a sequence of some length to start a run. -/
def isFrequent (length occurrences : Nat) : Bool :=
  200 ≤ length && length / 100 + 1 < occurrences

/-- Two sequences, ready to be matched. -/
def Sides.of [BEq α] (left right : List α) : Sides α :=
  let seeds := left.map fun item =>
    let places := placesOf right item
    if isFrequent right.length places.length then [] else places
  ⟨left.toArray, right.toArray, seeds.toArray⟩

/-- A part of the left sequence and a part of the right one, each from a place up to another. -/
structure Window where
  left : Nat
  leftEnd : Nat
  right : Nat
  rightEnd : Nat

/--
The lengths of the runs that end at given places on the right, from the lengths of those that end
one item earlier. Both lists are in increasing order of places.
-/
def extendRuns : List (Nat × Nat) → List Nat → List (Nat × Nat)
  | _, [] => []
  | earlier, place :: places =>
      let earlier := earlier.dropWhile fun (other, _) => other + 1 < place
      let length := match earlier with
        | (other, length) :: _ => if other + 1 = place then length + 1 else 1
        | [] => 1
      (place, length) :: extendRuns earlier places

/-- The longer of a run and one that ends at a place on either side, given by its end and length. -/
def longer (left : Nat) (best : Run) (ending : Nat × Nat) : Run :=
  if best.length < ending.2 then ⟨left + 1 - ending.2, ending.1 + 1 - ending.2, ending.2⟩ else best

namespace Sides

/-- Whether the items at two places are equal. -/
def agree [BEq α] (sides : Sides α) (left right : Nat) : Bool :=
  match sides.left[left]?, sides.right[right]? with
  | some a, some b => a == b
  | _, _ => false

/--
The runs that end at the item a number of steps into a window on the left, and the longest run so
far, from those one step before.
-/
def advance
    (sides : Sides α)
    (window : Window)
    (state : List (Nat × Nat) × Run)
    (step : Nat) :
    List (Nat × Nat) × Run :=
  let left := window.left + step
  let endings := extendRuns state.1
    ((sides.seeds.getD left []).filter fun place =>
      window.right ≤ place && place < window.rightEnd)
  (endings, endings.foldl (longer left) state.2)

/-- The first longest run that seeds start, within a window. -/
def longestSeeded (sides : Sides α) (window : Window) : Run :=
  ((List.range (window.leftEnd - window.left)).foldl (sides.advance window)
    ([], ⟨window.left, window.right, 0⟩)).2

/-- A run with the equal items in front of it. -/
def extendBack [BEq α] (sides : Sides α) (window : Window) : Nat → Run → Run
  | 0, run => run
  | fuel + 1, run =>
      if window.left < run.left && window.right < run.right &&
          sides.agree (run.left - 1) (run.right - 1) then
        sides.extendBack window fuel ⟨run.left - 1, run.right - 1, run.length + 1⟩
      else
        run

/-- A run with the equal items after it. -/
def extendOn [BEq α] (sides : Sides α) (window : Window) : Nat → Run → Run
  | 0, run => run
  | fuel + 1, run =>
      if run.left + run.length < window.leftEnd && run.right + run.length < window.rightEnd &&
          sides.agree (run.left + run.length) (run.right + run.length) then
        sides.extendOn window fuel ⟨run.left, run.right, run.length + 1⟩
      else
        run

/-- The longest common run within a window; of several the first. -/
def longest [BEq α] (sides : Sides α) (window : Window) : Run :=
  let fuel := window.leftEnd - window.left
  sides.extendOn window fuel (sides.extendBack window fuel (sides.longestSeeded window))

/--
The common runs within a window, in order. Each call shortens the window on the left, so fuel of
its length there is enough.
-/
def runsIn [BEq α] (sides : Sides α) : Nat → Window → List Run
  | 0, _ => []
  | fuel + 1, window =>
      let run := sides.longest window
      if run.length = 0 then
        []
      else
        let before :=
          if window.left < run.left && window.right < run.right then
            sides.runsIn fuel { window with leftEnd := run.left, rightEnd := run.right }
          else
            []
        let left := run.left + run.length
        let right := run.right + run.length
        let after :=
          if left < window.leftEnd && right < window.rightEnd then
            sides.runsIn fuel { window with left := left, right := right }
          else
            []
        before ++ run :: after

end Sides

/-- A run in front of others, joined to the first of them if that goes on where it ends. -/
def joinRun (run : Run) (joined : List Run) : List Run :=
  match joined with
  | next :: others =>
      if run.left + run.length = next.left ∧ run.right + run.length = next.right then
        ⟨run.left, run.right, run.length + next.length⟩ :: others
      else
        run :: joined
  | [] => [run]

/-- Runs with each that goes on where the one before it ends joined to that one. -/
def joinRuns (runs : List Run) : List Run :=
  runs.foldr joinRun []

/-- The common runs of two sequences, in order. -/
def commonRuns [BEq α] (left right : List α) : List Run :=
  joinRuns ((Sides.of left right).runsIn (left.length + 1) ⟨0, left.length, 0, right.length⟩)

/-- The number of items that two sequences have in common. -/
def commonLength [BEq α] (left right : List α) : Nat :=
  (commonRuns left right).foldl (fun total run => total + run.length) 0

end BlockSync.Diff
