import BlockSync.Block.Basic
import Mathlib.Data.List.Infix

namespace BlockSync

/-!
# Where a block is found

The block of a tag is found exactly where a begin marker and an end marker enclose lines that are
neither, and no such pair is completed above them.  Lines that are foreign to the tag do not take
part in this, so the block survives whatever happens to them.
-/

namespace Marker

/-- Whether a line can close a block: it holds an end marker and no begin marker. -/
def closes (tag : Tag) (line : Text.Line) : Bool :=
  isEnd tag line && !isBegin tag line

/-- A line that holds no marker of a tag. -/
structure Foreign (tag : Tag) (line : Text.Line) : Prop where
  notBegin :
    isBegin tag line = false
  notEnd :
    isEnd tag line = false

/-- A foreign line closes nothing. -/
theorem Foreign.notCloses
    {tag : Tag}
    {line : Text.Line}
    (foreign : Foreign tag line) :
    closes tag line = false := by
  simp [closes, foreign.notEnd]

/-- A line that neither begins nor closes a block is foreign. -/
theorem foreign_of_not_closes
    {tag : Tag}
    {line : Text.Line}
    (notBegin : isBegin tag line = false)
    (notCloses : closes tag line = false) :
    Foreign tag line where
  notBegin :=
    notBegin
  notEnd := by
    simpa [closes, notBegin] using notCloses

end Marker

namespace Block

/-- Lines in which no begin marker of a tag is closed later on. -/
def Unpaired (tag : Tag) (lines : List Text.Line) : Prop :=
  lines.Pairwise fun first second =>
    Marker.isBegin tag first = true → Marker.closes tag second = false

/-- The lines of a block: a begin marker, lines that are foreign to the tag, and an end marker. -/
def IsRegion (tag : Tag) (region : List Text.Line) : Prop :=
  ∃ marker inner stop,
    region = marker :: (inner ++ [stop]) ∧
      Marker.isBegin tag marker = true ∧
      (∀ line ∈ inner, Marker.Foreign tag line) ∧
      Marker.closes tag stop = true

variable {tag : Tag}

/-- Some of the lines of an unpaired text are unpaired. -/
theorem Unpaired.sublist
    {some all : List Text.Line}
    (unpaired : Unpaired tag all)
    (sublist : some.Sublist all) :
    Unpaired tag some :=
  List.Pairwise.sublist sublist unpaired

/-- Lines of which none closes a block are unpaired. -/
theorem unpaired_of_not_closes
    {lines : List Text.Line}
    (nothingCloses : ∀ line ∈ lines, Marker.closes tag line = false) :
    Unpaired tag lines := by
  rw [Unpaired, List.pairwise_iff_forall_sublist]
  intro first second ordered _
  exact nothingCloses second (ordered.subset (by simp))

/-- Lines of which none begins a block are unpaired. -/
theorem unpaired_of_not_begins
    {lines : List Text.Line}
    (nothingBegins : ∀ line ∈ lines, ¬ Marker.isBegin tag line = true) :
    Unpaired tag lines := by
  rw [Unpaired, List.pairwise_iff_forall_sublist]
  intro first second ordered begins
  exact (nothingBegins first (ordered.subset (by simp)) begins).elim

/-- Foreign lines can be added to an unpaired text. -/
theorem Unpaired.insert
    {before added after : List Text.Line}
    (unpaired : Unpaired tag (before ++ after))
    (foreign : ∀ line ∈ added, Marker.Foreign tag line) :
    Unpaired tag (before ++ (added ++ after)) := by
  rw [Unpaired, List.pairwise_append] at unpaired
  obtain ⟨beforeUnpaired, afterUnpaired, across⟩ := unpaired
  rw [Unpaired, List.pairwise_append, List.pairwise_append]
  refine ⟨beforeUnpaired, ⟨?_, afterUnpaired, ?_⟩, ?_⟩
  · exact unpaired_of_not_closes fun line member => (foreign line member).notCloses
  · intro first firstAdded second _ begins
    rw [(foreign first firstAdded).notBegin] at begins
    cases begins
  · intro first firstBefore second secondLater begins
    rcases List.mem_append.mp secondLater with isAdded | isAfter
    · exact (foreign second isAdded).notCloses
    · exact across first firstBefore second isAfter begins

/-- A begin marker takes the place of any begin marker above it. -/
private theorem findFrom_cons_of_begins
    (index : Nat)
    (begun : Option (Nat × Text.Line))
    {line : Text.Line}
    (rest : List Text.Line)
    (begins : Marker.isBegin tag line = true) :
    findFrom tag index begun (line :: rest) =
      findFrom tag (index + 1) (some (index, line)) rest := by
  cases begun <;> rw [findFrom, if_pos begins]

/-- A line that is foreign is passed over. -/
private theorem findFrom_cons_of_foreign
    (index : Nat)
    (begun : Option (Nat × Text.Line))
    {line : Text.Line}
    (rest : List Text.Line)
    (foreign : Marker.Foreign tag line) :
    findFrom tag index begun (line :: rest) =
      findFrom tag (index + 1) begun rest := by
  cases begun <;> simp [findFrom, foreign.notBegin, foreign.notEnd]

/-- As long as no block has begun, every other line is passed over. -/
private theorem findFrom_none_cons
    (index : Nat)
    {line : Text.Line}
    (rest : List Text.Line)
    (notBegin : ¬ Marker.isBegin tag line = true) :
    findFrom tag index none (line :: rest) =
      findFrom tag (index + 1) none rest := by
  rw [findFrom, if_neg notBegin]
  split <;> rfl

/-- Behind a begin marker, the scan goes on until a line closes the block. -/
private theorem findFrom_some_eq_none_iff
    (index : Nat)
    (begun : Nat × Text.Line)
    (lines : List Text.Line) :
    findFrom tag index (some begun) lines = none ↔
      ∀ line ∈ lines, Marker.closes tag line = false := by
  induction lines generalizing index begun with
  | nil =>
      simp [findFrom]
  | cons line rest inductionHypothesis =>
      by_cases begins : Marker.isBegin tag line = true
      · simp [findFrom, begins, inductionHypothesis, Marker.closes]
      · by_cases ends : Marker.isEnd tag line = true
        · simp [findFrom, begins, ends, Marker.closes]
        · simp [findFrom, begins, ends, inductionHypothesis, Marker.closes]

/-- A scan finds nothing exactly if no begin marker is closed later on. -/
private theorem findFrom_none_eq_none_iff
    (index : Nat)
    (lines : List Text.Line) :
    findFrom tag index none lines = none ↔ Unpaired tag lines := by
  induction lines generalizing index with
  | nil =>
      simp [findFrom, Unpaired]
  | cons line rest inductionHypothesis =>
      rw [Unpaired, List.pairwise_cons]
      by_cases begins : Marker.isBegin tag line = true
      · rw [findFrom, if_pos begins, findFrom_some_eq_none_iff]
        constructor
        · intro nothingCloses
          exact
            ⟨fun second member _ => nothingCloses second member,
              unpaired_of_not_closes nothingCloses⟩
        · rintro ⟨nothingCloses, _⟩ second member
          exact nothingCloses second member begins
      · rw [findFrom_none_cons index rest begins, inductionHypothesis]
        constructor
        · intro unpaired
          exact ⟨fun _ _ isBegin => (begins isBegin).elim, unpaired⟩
        · exact fun unpaired => unpaired.2

/-- A file has no block of a tag exactly if no begin marker is closed later on. -/
theorem find?_eq_none_iff
    {lines : List Text.Line} :
    find? tag lines = none ↔ Unpaired tag lines :=
  findFrom_none_eq_none_iff 0 lines

/-- A scan passes over unpaired lines, and remembers at most where one of them began. -/
private theorem findFrom_append
    (index : Nat)
    (begun : Option (Nat × Text.Line))
    {before : List Text.Line}
    (unpaired : Unpaired tag before)
    (open' : begun ≠ none → ∀ line ∈ before, Marker.closes tag line = false) :
    ∃ last, ∀ rest,
      findFrom tag index begun (before ++ rest) =
        findFrom tag (index + before.length) last rest := by
  induction before generalizing index begun with
  | nil =>
      exact ⟨begun, fun rest => rfl⟩
  | cons line others inductionHypothesis =>
      rw [Unpaired, List.pairwise_cons] at unpaired
      obtain ⟨lineUnpaired, othersUnpaired⟩ := unpaired
      by_cases begins : Marker.isBegin tag line = true
      · obtain ⟨last, scan⟩ :=
          inductionHypothesis (index + 1) (some (index, line)) othersUnpaired
            fun _ other member => lineUnpaired other member begins
        refine ⟨last, fun rest => ?_⟩
        rw [List.cons_append, findFrom_cons_of_begins index begun _ begins, scan,
          List.length_cons, Nat.add_assoc, Nat.add_comm 1]
      · obtain ⟨last, scan⟩ :=
          inductionHypothesis (index + 1) begun othersUnpaired
            fun isOpen other member =>
              open' isOpen other (List.mem_cons_of_mem line member)
        refine ⟨last, fun rest => ?_⟩
        have passes : findFrom tag index begun (line :: (others ++ rest)) =
            findFrom tag (index + 1) begun (others ++ rest) := by
          cases begun with
          | none =>
              exact findFrom_none_cons index _ begins
          | some start =>
              have notCloses := open' (by simp) line (by simp)
              exact findFrom_cons_of_foreign index (some start) _
                (Marker.foreign_of_not_closes (by simpa using begins) notCloses)
        rw [List.cons_append, passes, scan, List.length_cons, Nat.add_assoc,
          Nat.add_comm 1]

/-- A scan passes over foreign lines. -/
private theorem findFrom_foreign
    (index : Nat)
    (begun : Option (Nat × Text.Line))
    {inner : List Text.Line}
    (foreign : ∀ line ∈ inner, Marker.Foreign tag line)
    (rest : List Text.Line) :
    findFrom tag index begun (inner ++ rest) =
      findFrom tag (index + inner.length) begun rest := by
  induction inner generalizing index with
  | nil =>
      rfl
  | cons line others inductionHypothesis =>
      rw [List.cons_append,
        findFrom_cons_of_foreign index begun _ (foreign line (by simp)),
        inductionHypothesis (index + 1)
          fun other member => foreign other (List.mem_cons_of_mem line member),
        List.length_cons, Nat.add_assoc, Nat.add_comm 1]

/-- The block whose lines are a region behind other lines. -/
def ofRegion (before region : List Text.Line) : Block :=
  ⟨before.length, before.length + (region.length - 1),
    region.head?.bind Fingerprint.find?⟩

/-- A region of a tag that stands behind lines in which no begin marker is closed. -/
structure Stands (tag : Tag) (before region : List Text.Line) : Prop where
  unpaired :
    Unpaired tag before
  isRegion :
    IsRegion tag region

/-- A region that stands behind other lines is the block that is found. -/
theorem Stands.find?_eq
    {before region : List Text.Line}
    (stands : Stands tag before region)
    (after : List Text.Line) :
    find? tag (before ++ (region ++ after)) = some (ofRegion before region) := by
  obtain ⟨unpaired, marker, inner, stop, rfl, begins, foreign, closes⟩ := stands
  obtain ⟨last, scan⟩ := findFrom_append 0 none unpaired fun isOpen => (isOpen rfl).elim
  have ends : Marker.isEnd tag stop = true ∧ Marker.isBegin tag stop = false := by
    simpa [Marker.closes] using closes
  rw [find?, scan, List.cons_append, findFrom_cons_of_begins _ _ _ begins,
    List.append_assoc, findFrom_foreign _ _ foreign, List.singleton_append,
    findFrom]
  simp [ofRegion, ends.1, ends.2, Nat.add_assoc, Nat.add_comm 1]

/-- The lines around a block that was found, given a begin marker seen above them. -/
private theorem exists_stop_of_findFrom_some
    {index first : Nat}
    {marker : Text.Line}
    {lines : List Text.Line}
    {block : Block}
    (found : findFrom tag index (some (first, marker)) lines = some block) :
    (∃ inner stop after,
      lines = inner ++ (stop :: after) ∧
        (∀ line ∈ inner, Marker.Foreign tag line) ∧
        Marker.closes tag stop = true ∧
        block = ⟨first, index + inner.length, Fingerprint.find? marker⟩) ∨
      ∃ before marker inner stop after,
        lines = before ++ (marker :: (inner ++ [stop]) ++ after) ∧
          (∀ line ∈ before, Marker.closes tag line = false) ∧
          Marker.isBegin tag marker = true ∧
          (∀ line ∈ inner, Marker.Foreign tag line) ∧
          Marker.closes tag stop = true ∧
          block =
            ⟨index + before.length, index + before.length + inner.length + 1,
              Fingerprint.find? marker⟩ := by
  induction lines generalizing index first marker with
  | nil =>
      simp [findFrom] at found
  | cons line rest inductionHypothesis =>
      by_cases begins : Marker.isBegin tag line = true
      · rw [findFrom_cons_of_begins _ _ _ begins] at found
        right
        rcases inductionHypothesis found with
            ⟨inner, stop, after, rfl, foreign, closes, rfl⟩ |
              ⟨before, marker', inner, stop, after, rfl, nothingCloses, begins',
                foreign, closes, rfl⟩
        · refine ⟨[], line, inner, stop, after, by simp, by simp, begins,
            foreign, closes, ?_⟩
          simp [Nat.add_assoc, Nat.add_comm 1]
        · refine ⟨line :: before, marker', inner, stop, after, by simp, ?_, begins',
            foreign, closes, ?_⟩
          · simpa [Marker.closes, begins] using nothingCloses
          · simp [Nat.add_assoc, Nat.add_comm 1]
      · by_cases ends : Marker.isEnd tag line = true
        · left
          refine ⟨[], line, rest, rfl, by simp, by simp [Marker.closes, begins, ends], ?_⟩
          simpa [findFrom, begins, ends, eq_comm] using found
        · have lineForeign : Marker.Foreign tag line :=
            ⟨by simpa using begins, by simpa using ends⟩
          rw [findFrom_cons_of_foreign _ _ _ lineForeign] at found
          rcases inductionHypothesis found with
              ⟨inner, stop, after, rfl, foreign, closes, rfl⟩ |
                ⟨before, marker', inner, stop, after, rfl, nothingCloses, begins',
                  foreign, closes, rfl⟩
          · left
            refine ⟨line :: inner, stop, after, rfl, ?_, closes, ?_⟩
            · simpa [lineForeign] using foreign
            · simp [Nat.add_assoc, Nat.add_comm 1]
          · right
            refine ⟨line :: before, marker', inner, stop, after, by simp, ?_, begins',
              foreign, closes, ?_⟩
            · simpa [lineForeign.notCloses] using nothingCloses
            · simp [Nat.add_assoc, Nat.add_comm 1]

/-- The lines around a block that was found. -/
private theorem exists_region_of_findFrom_none
    {index : Nat}
    {lines : List Text.Line}
    {block : Block}
    (found : findFrom tag index none lines = some block) :
    ∃ before marker inner stop after,
      lines = before ++ (marker :: (inner ++ [stop]) ++ after) ∧
        Unpaired tag before ∧
        Marker.isBegin tag marker = true ∧
        (∀ line ∈ inner, Marker.Foreign tag line) ∧
        Marker.closes tag stop = true ∧
        block =
          ⟨index + before.length, index + before.length + inner.length + 1,
            Fingerprint.find? marker⟩ := by
  induction lines generalizing index with
  | nil =>
      simp [findFrom] at found
  | cons line rest inductionHypothesis =>
      by_cases begins : Marker.isBegin tag line = true
      · rw [findFrom_cons_of_begins _ _ _ begins] at found
        rcases exists_stop_of_findFrom_some found with
            ⟨inner, stop, after, rfl, foreign, closes, rfl⟩ |
              ⟨before, marker, inner, stop, after, rfl, nothingCloses, begins',
                foreign, closes, rfl⟩
        · refine ⟨[], line, inner, stop, after, by simp, List.Pairwise.nil, begins,
            foreign, closes, ?_⟩
          simp [Nat.add_assoc, Nat.add_comm 1]
        · refine ⟨line :: before, marker, inner, stop, after, by simp, ?_, begins',
            foreign, closes, ?_⟩
          · rw [Unpaired, List.pairwise_cons]
            exact
              ⟨fun second member _ => nothingCloses second member,
                unpaired_of_not_closes nothingCloses⟩
          · simp [Nat.add_assoc, Nat.add_comm 1]
      · rw [findFrom_none_cons _ _ begins] at found
        obtain ⟨before, marker, inner, stop, after, rfl, unpaired, begins', foreign,
            closes, rfl⟩ :=
          inductionHypothesis found
        refine ⟨line :: before, marker, inner, stop, after, by simp, ?_, begins',
          foreign, closes, ?_⟩
        · rw [Unpaired, List.pairwise_cons]
          exact ⟨fun _ _ isBegin => (begins isBegin).elim, unpaired⟩
        · simp [Nat.add_assoc, Nat.add_comm 1]

/-- A block is found exactly if its lines are a region that stands behind the lines above it. -/
theorem find?_eq_some_iff
    {lines : List Text.Line}
    {block : Block} :
    find? tag lines = some block ↔
      ∃ before region after,
        lines = before ++ (region ++ after) ∧
          Stands tag before region ∧
          block = ofRegion before region := by
  constructor
  · intro found
    obtain ⟨before, marker, inner, stop, after, rfl, unpaired, begins, foreign,
        closes, rfl⟩ :=
      exists_region_of_findFrom_none found
    refine
      ⟨before, marker :: (inner ++ [stop]), after, rfl,
        ⟨unpaired, marker, inner, stop, rfl, begins, foreign, closes⟩, ?_⟩
    simp [ofRegion, Nat.add_assoc]
  · rintro ⟨before, region, after, rfl, stands, rfl⟩
    exact stands.find?_eq after

end Block

end BlockSync
