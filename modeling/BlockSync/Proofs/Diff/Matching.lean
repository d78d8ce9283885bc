import BlockSync.Diff.Matching
import Mathlib.Data.List.Basic

namespace BlockSync.Diff

/-!
# Common runs

Every run that is found is common to both sequences, and the runs stand in order and apart.  This
depends neither on which places start a run nor on the fuel.
-/

variable {α : Type} [BEq α]

/-- Whether items of two sequences agree along a run. -/
def Sides.Common (sides : Sides α) (run : Run) : Prop :=
  ∀ step < run.length, sides.agree (run.left + step) (run.right + step) = true

/-- Whether a window ends nowhere before it starts. -/
structure Window.Valid (window : Window) : Prop where
  left : window.left ≤ window.leftEnd
  right : window.right ≤ window.rightEnd

/-- Whether a run lies within a window. -/
structure Run.Within (run : Run) (window : Window) : Prop where
  left : window.left ≤ run.left
  leftEnd : run.left + run.length ≤ window.leftEnd
  right : window.right ≤ run.right
  rightEnd : run.right + run.length ≤ window.rightEnd

/-- Whether a run within a window is common to both sequences. -/
structure Sides.Sound (sides : Sides α) (window : Window) (run : Run) : Prop where
  common : sides.Common run
  within : run.Within window

namespace Sides

variable {sides : Sides α} {window : Window} {run : Run} {left right : Nat}

/-- Items that agree come from both sequences and are equal. -/
theorem getElem?_eq_of_agree
    [LawfulBEq α]
    (agrees : sides.agree left right = true) :
    sides.left[left]? = sides.right[right]? := by
  rw [agree] at agrees
  split at agrees
  · next first second isFirst isSecond =>
    rw [isFirst, isSecond, beq_iff_eq.mp agrees]
  · cases agrees

/-- Items that agree are a run. -/
theorem common_single (agrees : sides.agree left right = true) :
    sides.Common ⟨left, right, 1⟩ := by
  intro step isStep
  obtain rfl : step = 0 := Nat.lt_one_iff.mp isStep
  exact agrees

/-- A common run and one that goes on where it ends are one common run. -/
theorem Common.append
    {length more : Nat}
    (common : sides.Common ⟨left, right, length⟩)
    (behind : sides.Common ⟨left + length, right + length, more⟩) :
    sides.Common ⟨left, right, length + more⟩ := by
  intro step isStep
  by_cases inFirst : step < length
  · exact common step inFirst
  · have agrees := behind (step - length) (by dsimp only at isStep ⊢; omega)
    dsimp only at agrees ⊢
    rwa [Nat.add_assoc, Nat.add_sub_of_le (by omega), Nat.add_assoc,
      Nat.add_sub_of_le (by omega)] at agrees

/-- Whether every place where an item can start a run is a place of that item. -/
def Seeded (sides : Sides α) : Prop :=
  ∀ left, ∀ place ∈ sides.seeds.getD left [], sides.agree left place = true

/-- The places that start runs of two sequences are places of their items. -/
theorem seeded_of (left right : List α) [LawfulBEq α] : (Sides.of left right).Seeded := by
  intro index place isSeed
  simp only [Sides.of] at isSeed
  rw [Array.getD_eq_getD_getElem?, List.getElem?_toArray, List.getElem?_map] at isSeed
  simp only [agree, Sides.of, List.getElem?_toArray]
  cases isItem : left[index]? with
  | none =>
      rw [isItem] at isSeed
      cases isSeed
  | some item =>
      rw [isItem, Option.map_some, Option.getD_some] at isSeed
      have isPlace : place ∈ placesOf right item := by
        split at isSeed
        · cases isSeed
        · exact isSeed
      obtain ⟨⟨other, here⟩, member, rfl⟩ := List.mem_map.mp isPlace
      obtain ⟨inRight, same⟩ := List.mem_filter.mp member
      rw [List.mem_zipIdx_iff_getElem?.mp inRight]
      exact BEq.symm same

/--
Whether a run of some length that ends at a place on the right, and in front of a place on the left,
is common to both sequences and starts within a window.
-/
structure EndsAt
    (sides : Sides α)
    (window : Window)
    (left place length : Nat) :
    Prop where
  leftRoom : window.left + length ≤ left
  rightRoom : window.right + length ≤ place + 1
  rightEnd : place < window.rightEnd
  common : sides.Common ⟨left - length, place + 1 - length, length⟩

/-- Runs go on with an item that agrees, or start there. -/
theorem endsAt_of_mem_extendRuns
    {earlier : List (Nat × Nat)}
    {places : List Nat}
    (started : window.left ≤ left)
    (runs : ∀ run ∈ earlier, sides.EndsAt window left run.1 run.2)
    (seeds : ∀ place ∈ places,
      window.right ≤ place ∧ place < window.rightEnd ∧ sides.agree left place = true) :
    ∀ run ∈ extendRuns earlier places, sides.EndsAt window (left + 1) run.1 run.2 := by
  induction places generalizing earlier with
  | nil =>
      intro run member
      cases member
  | cons place places inductionHypothesis =>
      obtain ⟨⟨notBefore, before, agrees⟩, laterSeeds⟩ := List.forall_mem_cons.mp seeds
      have alone : sides.EndsAt window (left + 1) place 1 :=
        ⟨by omega, by omega, before, common_single agrees⟩
      have laterRuns :
          ∀ run ∈ earlier.dropWhile (fun run => decide (run.1 + 1 < place)),
            sides.EndsAt window left run.1 run.2 :=
        fun run member => runs run ((List.dropWhile_sublist _).subset member)
      rw [extendRuns]
      refine List.forall_mem_cons.mpr ⟨?_, inductionHypothesis laterRuns laterSeeds⟩
      split
      · next other length rest shape =>
        split
        · next adjacent =>
          obtain ⟨leftRoom, rightRoom, _, common⟩ : sides.EndsAt window left other length :=
            laterRuns (other, length) (by rw [shape]; exact List.mem_cons_self)
          refine ⟨by omega, by omega, before, ?_⟩
          have longer : sides.Common ⟨left - length, other + 1 - length, length + 1⟩ := by
            refine common.append (common_single ?_)
            rw [Nat.sub_add_cancel (by omega), Nat.sub_add_cancel (by omega), adjacent]
            exact agrees
          rwa [Nat.add_sub_add_right, ← adjacent, Nat.add_sub_add_right]
        · exact alone
      · exact alone

/-- A run that ends at a place is sound. -/
theorem EndsAt.sound
    {place length : Nat}
    (endsAt : sides.EndsAt window left place length)
    (notBehind : left ≤ window.leftEnd) :
    sides.Sound window ⟨left - length, place + 1 - length, length⟩ := by
  obtain ⟨leftRoom, rightRoom, rightEnd, common⟩ := endsAt
  refine ⟨common, ?_⟩
  constructor <;> dsimp only <;> omega

/-- Of a run and those that end in front of a place, the longest one is sound if all of them are. -/
private theorem sound_foldl_longer
    {endings : List (Nat × Nat)}
    {best : Run}
    (notBehind : left + 1 ≤ window.leftEnd)
    (runs : ∀ ending ∈ endings, sides.EndsAt window (left + 1) ending.1 ending.2)
    (sound : sides.Sound window best) :
    sides.Sound window (endings.foldl (longer left) best) := by
  induction endings generalizing best with
  | nil =>
      exact sound
  | cons ending others inductionHypothesis =>
      obtain ⟨first, later⟩ := List.forall_mem_cons.mp runs
      refine inductionHypothesis later ?_
      rw [longer]
      split
      · exact first.sound notBehind
      · exact sound

/-- What is known after some items on the left is sound. -/
private theorem sound_foldl_advance
    (seeded : sides.Seeded)
    (valid : window.Valid)
    (steps : Nat)
    (within : window.left + steps ≤ window.leftEnd) :
    let state :=
      (List.range steps).foldl (sides.advance window) ([], ⟨window.left, window.right, 0⟩)
    (∀ ending ∈ state.1, sides.EndsAt window (window.left + steps) ending.1 ending.2) ∧
      sides.Sound window state.2 := by
  induction steps with
  | zero =>
      refine ⟨List.forall_mem_nil _, ?_, ?_⟩
      · intro step isStep
        cases isStep
      · exact ⟨Nat.le_refl _, valid.left, Nat.le_refl _, valid.right⟩
  | succ steps inductionHypothesis =>
      obtain ⟨runs, sound⟩ := inductionHypothesis (by omega)
      rw [List.range_succ, List.foldl_append, List.foldl_cons, List.foldl_nil]
      generalize (List.range steps).foldl (sides.advance window)
        ([], ⟨window.left, window.right, 0⟩) = state at runs sound
      have runsLater :
          ∀ ending ∈ (sides.advance window state steps).1,
            sides.EndsAt window (window.left + (steps + 1)) ending.1 ending.2 := by
        refine endsAt_of_mem_extendRuns (Nat.le_add_right _ _) runs fun place member => ?_
        obtain ⟨isSeed, inWindow⟩ := List.mem_filter.mp member
        rw [Bool.and_eq_true, decide_eq_true_iff, decide_eq_true_iff] at inWindow
        exact ⟨inWindow.1, inWindow.2, seeded _ place isSeed⟩
      exact ⟨runsLater, sound_foldl_longer (by omega) runsLater sound⟩

/-- The longest run that seeds start is sound. -/
theorem sound_longestSeeded
    (seeded : sides.Seeded)
    (valid : window.Valid) :
    sides.Sound window (sides.longestSeeded window) := by
  have within : window.left + (window.leftEnd - window.left) ≤ window.leftEnd :=
    Nat.le_of_eq (Nat.add_sub_of_le valid.left)
  exact (sound_foldl_advance seeded valid _ within).2

/-- A sound run stays sound with the equal items in front of it. -/
theorem Sound.extendBack
    (sound : sides.Sound window run)
    (fuel : Nat) :
    sides.Sound window (sides.extendBack window fuel run) := by
  induction fuel generalizing run with
  | zero =>
      exact sound
  | succ fuel inductionHypothesis =>
      rw [Sides.extendBack]
      split
      · next more =>
        simp only [Bool.and_eq_true, decide_eq_true_eq] at more
        obtain ⟨⟨leftRoom, rightRoom⟩, agrees⟩ := more
        obtain ⟨common, within⟩ := sound
        refine inductionHypothesis ⟨?_, ?_⟩
        · rw [Nat.add_comm]
          refine (common_single agrees).append ?_
          rw [Nat.sub_add_cancel (by omega), Nat.sub_add_cancel (by omega)]
          exact common
        · obtain ⟨left, leftEnd, right, rightEnd⟩ := within
          constructor <;> dsimp only <;> omega
      · exact sound

/-- A sound run stays sound with the equal items after it. -/
theorem Sound.extendOn
    (sound : sides.Sound window run)
    (fuel : Nat) :
    sides.Sound window (sides.extendOn window fuel run) := by
  induction fuel generalizing run with
  | zero =>
      exact sound
  | succ fuel inductionHypothesis =>
      rw [Sides.extendOn]
      split
      · next more =>
        simp only [Bool.and_eq_true, decide_eq_true_eq] at more
        obtain ⟨⟨leftRoom, rightRoom⟩, agrees⟩ := more
        obtain ⟨common, within⟩ := sound
        refine inductionHypothesis ⟨common.append (common_single agrees), ?_⟩
        obtain ⟨left, leftEnd, right, rightEnd⟩ := within
        constructor <;> dsimp only <;> omega
      · exact sound

/-- The longest run within a window is sound. -/
theorem sound_longest
    (seeded : sides.Seeded)
    (valid : window.Valid) :
    sides.Sound window (sides.longest window) :=
  ((sound_longestSeeded seeded valid).extendBack _).extendOn _

end Sides

/-- Whether runs stand in order and apart, from two places on and up to two others. -/
def Ordered (leftEnd rightEnd : Nat) : Nat → Nat → List Run → Prop
  | left, right, [] => left ≤ leftEnd ∧ right ≤ rightEnd
  | left, right, run :: others =>
      left ≤ run.left ∧ right ≤ run.right ∧
        Ordered leftEnd rightEnd (run.left + run.length) (run.right + run.length) others

/-- Runs in order go on with one that starts where they end, and with those behind that one. -/
theorem Ordered.append_cons
    {leftEnd rightEnd left right : Nat}
    {before after : List Run}
    {run : Run}
    (ordered : Ordered run.left run.right left right before)
    (behind : Ordered leftEnd rightEnd (run.left + run.length) (run.right + run.length) after) :
    Ordered leftEnd rightEnd left right (before ++ run :: after) := by
  induction before generalizing left right with
  | nil =>
      exact ⟨ordered.1, ordered.2, behind⟩
  | cons first others inductionHypothesis =>
      exact ⟨ordered.1, ordered.2.1, inductionHypothesis ordered.2.2⟩

namespace Sides

variable {sides : Sides α} {window : Window}

/-- The runs within a window are common and stand in order. -/
theorem runsIn_spec
    (seeded : sides.Seeded)
    (fuel : Nat)
    (valid : window.Valid) :
    (∀ run ∈ sides.runsIn fuel window, sides.Common run) ∧
      Ordered window.leftEnd window.rightEnd window.left window.right
        (sides.runsIn fuel window) := by
  induction fuel generalizing window with
  | zero =>
      exact ⟨List.forall_mem_nil _, valid.left, valid.right⟩
  | succ fuel inductionHypothesis =>
      obtain ⟨common, left, leftEnd, right, rightEnd⟩ := sound_longest seeded valid
      rw [runsIn]
      generalize sides.longest window = run at common left leftEnd right rightEnd
      dsimp only
      split
      · exact ⟨List.forall_mem_nil _, valid.left, valid.right⟩
      · have before :
            let runs :=
              if window.left < run.left && window.right < run.right then
                sides.runsIn fuel { window with leftEnd := run.left, rightEnd := run.right }
              else []
            (∀ run ∈ runs, sides.Common run) ∧
              Ordered run.left run.right window.left window.right runs := by
          dsimp only
          split
          · exact inductionHypothesis ⟨left, right⟩
          · exact ⟨List.forall_mem_nil _, left, right⟩
        have after :
            let runs :=
              if run.left + run.length < window.leftEnd &&
                  run.right + run.length < window.rightEnd then
                sides.runsIn fuel
                  { window with left := run.left + run.length, right := run.right + run.length }
              else []
            (∀ run ∈ runs, sides.Common run) ∧
              Ordered window.leftEnd window.rightEnd (run.left + run.length)
                (run.right + run.length) runs := by
          dsimp only
          split
          · exact inductionHypothesis ⟨leftEnd, rightEnd⟩
          · exact ⟨List.forall_mem_nil _, leftEnd, rightEnd⟩
        refine ⟨fun other member => ?_, before.2.append_cons after.2⟩
        rcases List.mem_append.mp member with isBefore | member
        · exact before.1 other isBefore
        · rcases List.mem_cons.mp member with rfl | isAfter
          · exact common
          · exact after.1 other isAfter

end Sides

/-- Joined runs are common and in order if the runs are. -/
theorem joinRuns_spec
    {sides : Sides α}
    {leftEnd rightEnd left right : Nat}
    {runs : List Run}
    (common : ∀ run ∈ runs, sides.Common run)
    (ordered : Ordered leftEnd rightEnd left right runs) :
    (∀ run ∈ joinRuns runs, sides.Common run) ∧
      Ordered leftEnd rightEnd left right (joinRuns runs) := by
  induction runs generalizing left right with
  | nil =>
      exact ⟨common, ordered⟩
  | cons run others inductionHypothesis =>
      obtain ⟨first, later⟩ := List.forall_mem_cons.mp common
      obtain ⟨commonLater, orderedLater⟩ := inductionHypothesis later ordered.2.2
      rw [joinRuns, List.foldr_cons, ← joinRuns]
      generalize joinRuns others = joined at commonLater orderedLater
      have kept :
          (∀ other ∈ run :: joined, sides.Common other) ∧
            Ordered leftEnd rightEnd left right (run :: joined) :=
        ⟨List.forall_mem_cons.mpr ⟨first, commonLater⟩, ordered.1, ordered.2.1, orderedLater⟩
      cases joined with
      | nil =>
          exact kept
      | cons next rest =>
          rw [joinRun]
          split
          · next adjacent =>
            obtain ⟨nextCommon, restCommon⟩ := List.forall_mem_cons.mp commonLater
            refine ⟨List.forall_mem_cons.mpr ⟨?_, restCommon⟩, ordered.1, ordered.2.1, ?_⟩
            · refine Sides.Common.append first ?_
              rw [adjacent.1, adjacent.2]
              exact nextCommon
            · dsimp only
              rw [← Nat.add_assoc, ← Nat.add_assoc, adjacent.1, adjacent.2]
              exact orderedLater.2.2
          · exact kept

/-- The runs that two sequences have in common are common to them, in order and apart. -/
theorem commonRuns_spec [LawfulBEq α] (left right : List α) :
    (∀ run ∈ commonRuns left right, ∀ step < run.length,
      left[run.left + step]? = right[run.right + step]?) ∧
      Ordered left.length right.length 0 0 (commonRuns left right) := by
  have valid : Window.Valid ⟨0, left.length, 0, right.length⟩ :=
    ⟨Nat.zero_le _, Nat.zero_le _⟩
  obtain ⟨common, ordered⟩ := Sides.runsIn_spec (Sides.seeded_of left right) (left.length + 1) valid
  obtain ⟨joinedCommon, joinedOrdered⟩ := joinRuns_spec common ordered
  refine ⟨fun run member step isStep => ?_, joinedOrdered⟩
  have same := Sides.getElem?_eq_of_agree (joinedCommon run member step isStep)
  simpa only [Sides.of, List.getElem?_toArray] using same

end BlockSync.Diff
