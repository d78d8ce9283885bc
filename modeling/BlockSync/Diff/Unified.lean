import BlockSync.Diff.Matching
import BlockSync.Text.LineBreak

namespace BlockSync.Diff

/-!
# Unified diffs

The difference of two texts as hunks of removed and added lines with three lines around them.
Lines end at every kind of line break and keep it.
-/

/-- A stretch of two sequences that is common to both, or differs. -/
structure Stretch where
  isCommon : Bool
  left : Nat
  leftEnd : Nat
  right : Nat
  rightEnd : Nat
  deriving Repr, DecidableEq

/-- The stretches from two places on, given the common runs after them and the ends. -/
def stretchesFrom (leftEnd rightEnd : Nat) : Nat → Nat → List Run → List Stretch
  | left, right, [] =>
      if left < leftEnd ∨ right < rightEnd then [⟨false, left, leftEnd, right, rightEnd⟩] else []
  | left, right, run :: others =>
      let differing : List Stretch :=
        if left < run.left ∨ right < run.right then [⟨false, left, run.left, right, run.right⟩]
        else []
      differing ++ ⟨true, run.left, run.left + run.length, run.right, run.right + run.length⟩ ::
        stretchesFrom leftEnd rightEnd (run.left + run.length) (run.right + run.length) others

/-- The number of common lines shown around differing ones. -/
def context : Nat := 3

/-- The last lines of a common stretch. -/
def Stretch.tail (stretch : Stretch) : Stretch :=
  { stretch with
    left := max stretch.left (stretch.leftEnd - context)
    right := max stretch.right (stretch.rightEnd - context) }

/-- The first lines of a common stretch. -/
def Stretch.head (stretch : Stretch) : Stretch :=
  { stretch with
    leftEnd := min stretch.leftEnd (stretch.left + context)
    rightEnd := min stretch.rightEnd (stretch.right + context) }

/-- Changes one item of a list, if there is one, as a common stretch. -/
def onCommon (change : Stretch → Stretch) (stretch : Stretch) : Stretch :=
  if stretch.isCommon then change stretch else stretch

/-- Stretches with the last one cut if it is common. -/
def trimLast (stretches : List Stretch) : List Stretch :=
  match stretches.getLast? with
  | none => []
  | some last => stretches.dropLast ++ [onCommon Stretch.head last]

/-- The stretches with no more than the needed lines at the start and at the end. -/
def trimEnds : List Stretch → List Stretch
  | [] => []
  | first :: others => trimLast (onCommon Stretch.tail first :: others)

/-- The hunks that are done and the current one, after one more stretch. -/
def cut
    (state : List (List Stretch) × List Stretch)
    (stretch : Stretch) :
    List (List Stretch) × List Stretch :=
  if stretch.isCommon && 2 * context < stretch.leftEnd - stretch.left then
    (state.1 ++ [state.2 ++ [stretch.head]], [stretch.tail])
  else
    (state.1, state.2 ++ [stretch])

/-- The hunks that are done and the current one. -/
def allHunks (state : List (List Stretch) × List Stretch) : List (List Stretch) :=
  state.1 ++ [state.2]

/-- Whether a hunk has something to show: more than one stretch, or one that differs. -/
def isShown : List Stretch → Bool
  | [] => false
  | [single] => !single.isCommon
  | _ => true

/-- Hunks: stretches, cut within every common stretch that is too long to be shown whole. -/
def hunks (stretches : List Stretch) : List (List Stretch) :=
  (allHunks ((trimEnds stretches).foldl cut ([], []))).filter isShown

/-- A range of lines in the head of a hunk. -/
def rangeText (start stop : Nat) : String :=
  let length := stop - start
  if length = 1 then toString (start + 1)
  else if length = 0 then toString start ++ ",0"
  else toString (start + 1) ++ "," ++ toString length

/-- The lines of an array from a place up to another. -/
def slice (items : Array α) (start stop : Nat) : List α :=
  (items.extract start stop).toList

/-- The lines of a stretch, each with its mark. -/
def Stretch.lines (left right : Array (List Char)) (stretch : Stretch) : List (List Char) :=
  if stretch.isCommon then
    (slice left stretch.left stretch.leftEnd).map (' ' :: ·)
  else
    (slice left stretch.left stretch.leftEnd).map ('-' :: ·) ++
      (slice right stretch.right stretch.rightEnd).map ('+' :: ·)

/-- The lines of a hunk with its head. -/
def hunkLines (left right : Array (List Char)) (hunk : List Stretch) : List (List Char) :=
  match hunk.head?, hunk.getLast? with
  | some first, some last =>
      let head := "@@ -" ++ rangeText first.left last.leftEnd ++ " +" ++
        rangeText first.right last.rightEnd ++ " @@\n"
      head.toList :: hunk.flatMap (Stretch.lines left right)
  | _, _ => []

/-- The lines of a unified diff under a label. -/
def unifiedLines (before after label : String) : List (List Char) :=
  let left := Text.breakLines before.toList
  let right := Text.breakLines after.toList
  let stretches := stretchesFrom left.length right.length 0 0 (commonRuns left right)
  let body := (hunks stretches).flatMap (hunkLines left.toArray right.toArray)
  if body.isEmpty then
    []
  else
    ("--- " ++ label ++ " (current)\n").toList :: ("+++ " ++ label ++ " (updated)\n").toList :: body

/-- The unified diff of two texts under a label; nothing if they are equal. -/
def unified (before after label : String) : String :=
  if before = after then ""
  else String.ofList ((unifiedLines before after label).map Text.endLine).flatten

end BlockSync.Diff
