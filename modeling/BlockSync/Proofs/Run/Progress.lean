import BlockSync.Proofs.Merge.Reread
import BlockSync.Proofs.Run.Job

namespace BlockSync

/-!
# Progress of a run

While the jobs of a file are carried out, the blocks of the jobs that are done stay up to date, and
those of the jobs to come stay apart from all others.  Later jobs move the blocks of earlier ones
and may put lines between theirs, but they never change a marker of another tag.
-/

namespace Job

/-- A job that would find nothing to do: its block is current, or not wanted and not there. -/
structure Settled (shared : Table) (lines : List Text.Line) (job : Job) : Prop where
  decided :
    ∃ complete, job.isComplete shared = .ok complete
  current :
    job.isComplete shared = .ok true →
      ∃ payload block,
        job.payload shared = .ok payload ∧
          Block.named? job.tag lines = some block ∧
          block.isCurrent payload = true
  absent :
    job.isComplete shared = .ok false → Block.named? job.tag lines = none

/-- A job whose block is wanted is settled by a current block. -/
theorem settled_of_current
    {shared : Table}
    {lines : List Text.Line}
    {job : Job}
    {payload : String}
    {block : Block}
    (complete : job.isComplete shared = .ok true)
    (rendered : job.payload shared = .ok payload)
    (found : Block.named? job.tag lines = some block)
    (current : block.isCurrent payload = true) :
    Settled shared lines job where
  decided :=
    ⟨true, complete⟩
  current _ :=
    ⟨payload, block, rendered, found, current⟩
  absent incomplete := by
    rw [complete] at incomplete
    cases incomplete

/-- A job whose block is not wanted is settled without one. -/
theorem settled_of_absent
    {shared : Table}
    {lines : List Text.Line}
    {job : Job}
    (incomplete : job.isComplete shared = .ok false)
    (absent : Block.named? job.tag lines = none) :
    Settled shared lines job where
  decided :=
    ⟨false, incomplete⟩
  current complete := by
    rw [incomplete] at complete
    cases complete
  absent _ :=
    absent

/-- A job stays settled when its block only moves. -/
theorem Settled.moved
    {shared : Table}
    {lines later : List Text.Line}
    {job : Job}
    {move : Nat → Nat}
    (settled : Settled shared lines job)
    (moves : Block.named? job.tag later = (Block.named? job.tag lines).map (Block.moved move)) :
    Settled shared later job where
  decided :=
    settled.decided
  current complete := by
    obtain ⟨payload, block, rendered, found, current⟩ := settled.current complete
    exact ⟨payload, block.moved move, rendered, by rw [moves, found]; rfl, current⟩
  absent incomplete := by
    rw [moves, settled.absent incomplete]
    rfl

end Job

/-- What holds of the lines of a file when some of its jobs are done and the others pending. -/
structure Progress
    (shared : Table)
    (done pending : List Job)
    (lines : List Text.Line) :
    Prop where
  settled :
    ∀ job ∈ done, job.Settled shared lines
  apart :
    ∀ job ∈ pending, ∀ other ∈ done ++ pending, other.tag ≠ job.tag →
      ∀ block, Block.named? job.tag lines = some block →
        ∀ otherBlock, Block.named? other.tag lines = some otherBlock →
          block.Apart otherBlock
  unanchored :
    ∀ job ∈ pending, ∀ other ∈ pending, other.tag ≠ job.tag →
      ∀ block, Block.named? job.tag lines = some block →
        ∀ line ∈ block.linesIn lines, other.fragment.anchor.matchesLine line = false
  single :
    ∀ job ∈ pending, job.isComplete shared = .ok false →
      ∀ tag : Tag, tag.name = job.tag → lines.countP (Marker.isBegin tag) ≤ 1

namespace Progress

variable {shared : Table} {done pending : List Job} {job : Job} {lines : List Text.Line}

/-- Fewer jobs are left. -/
theorem tail
    (progress : Progress shared done (job :: pending) lines) :
    Progress shared done pending lines where
  settled :=
    progress.settled
  apart first isFirst other isOther :=
    progress.apart first (List.mem_cons_of_mem job isFirst) other <| by
      simp only [List.mem_append, List.mem_cons] at isOther ⊢
      tauto
  unanchored first isFirst other isOther :=
    progress.unanchored first (List.mem_cons_of_mem job isFirst) other
      (List.mem_cons_of_mem job isOther)
  single first isFirst :=
    progress.single first (List.mem_cons_of_mem job isFirst)

/-- A pending job is done once it is settled and its block is apart from those still to come. -/
theorem settle
    (progress : Progress shared done pending lines)
    (settled : job.Settled shared lines)
    (apart :
      ∀ other ∈ pending,
        ∀ block, Block.named? job.tag lines = some block →
          ∀ otherBlock, Block.named? other.tag lines = some otherBlock →
            otherBlock.Apart block) :
    Progress shared (done ++ [job]) pending lines where
  settled other isOther := by
    rcases List.mem_append.mp isOther with wasDone | isJob
    · exact progress.settled other wasDone
    · rw [List.mem_singleton.mp isJob]
      exact settled
  apart first isFirst other isOther different block found otherBlock otherFound := by
    simp only [List.mem_append, List.mem_singleton] at isOther
    rcases isOther with (wasDone | rfl) | isPending
    · exact progress.apart first isFirst other (List.mem_append_left pending wasDone)
        different block found otherBlock otherFound
    · exact apart first isFirst otherBlock otherFound block found
    · exact progress.apart first isFirst other (List.mem_append_right done isPending)
        different block found otherBlock otherFound
  unanchored :=
    progress.unanchored
  single :=
    progress.single

/-- A pending job whose block is neither wanted nor there is done. -/
theorem settle_absent
    (progress : Progress shared done pending lines)
    (incomplete : job.isComplete shared = .ok false)
    (absent : Block.named? job.tag lines = none) :
    Progress shared (done ++ [job]) pending lines := by
  refine progress.settle (Job.settled_of_absent incomplete absent) ?_
  intro other _ block found
  rw [absent] at found
  cases found

/-- The block of the next job is apart from those of all other jobs. -/
theorem beside
    {block : Block}
    (progress : Progress shared done (job :: pending) lines)
    (different : ∀ other ∈ done ++ pending, other.tag ≠ job.tag)
    (found : Block.named? job.tag lines = some block) :
    ∀ other ∈ done ++ pending,
      ∀ otherBlock, Block.named? other.tag lines = some otherBlock →
        block.Apart otherBlock := by
  intro other isOther otherBlock otherFound
  have isAny : other ∈ done ++ job :: pending := by
    simp only [List.mem_append, List.mem_cons] at isOther ⊢
    tauto
  exact progress.apart job List.mem_cons_self other isAny (different other isOther) block found
    otherBlock otherFound

/-- A fresh block of the next job spares the blocks of the jobs behind it. -/
theorem spares_fresh
    {text : String}
    {index : Nat}
    (progress : Progress shared done (job :: pending) (Text.lines text))
    (different : ∀ other ∈ done ++ pending, other.tag ≠ job.tag)
    (located : job.fragment.anchor.insertionIndex text = .ok index) :
    ∀ other ∈ pending,
      ∀ block, Block.named? other.tag (Text.lines text) = some block →
        Block.Spares index block := by
  intro other isOther block found
  have apartTags := (different other (List.mem_append_right done isOther)).symm
  exact Anchor.spares_of_unmatched located
    (progress.unanchored other (List.mem_cons_of_mem job isOther) job List.mem_cons_self
      apartTags block found)

/-- A block in the place of an older one spares the blocks that the older one was apart from. -/
theorem spares_replaced
    {existing : Block}
    (ordered : existing.first ≤ existing.last)
    (beside :
      ∀ other ∈ done ++ pending,
        ∀ block, Block.named? other.tag lines = some block → existing.Apart block) :
    ∀ other ∈ pending,
      ∀ block, Block.named? other.tag (existing.excise lines) = some block →
        Block.Spares existing.first block := by
  intro other isOther block found
  have isAny := List.mem_append_right done isOther
  rw [Block.named?_excise ordered (beside other isAny), Option.map_eq_some_iff] at found
  obtain ⟨before, wasFound, rfl⟩ := found
  exact (beside other isAny before wasFound).spares_closed ordered
    (Block.ordered_of_named? wasFound)

/-- Lines beside all blocks can be taken out. -/
theorem excise
    {existing : Block}
    (progress : Progress shared done pending lines)
    (ordered : existing.first ≤ existing.last)
    (beside :
      ∀ other ∈ done ++ pending,
        ∀ block, Block.named? other.tag lines = some block → existing.Apart block) :
    Progress shared done pending (existing.excise lines) := by
  have moves :
      ∀ other ∈ done ++ pending,
        Block.named? other.tag (existing.excise lines) =
          (Block.named? other.tag lines).map
            (Block.moved
              (Block.closedAt existing.first (existing.last + 1 - existing.first))) :=
    fun other isOther => Block.named?_excise ordered (beside other isOther)
  constructor
  · intro job isDone
    exact (progress.settled job isDone).moved (moves job (List.mem_append_left pending isDone))
  · intro job isPending other isOther different block found otherBlock otherFound
    have isJob := List.mem_append_right done isPending
    rw [moves job isJob, Option.map_eq_some_iff] at found
    rw [moves other isOther, Option.map_eq_some_iff] at otherFound
    obtain ⟨block, found, rfl⟩ := found
    obtain ⟨otherBlock, otherFound, rfl⟩ := otherFound
    exact
      (progress.apart job isPending other isOther different block found otherBlock
        otherFound).closed (Block.ordered_of_named? found)
          (Block.ordered_of_named? otherFound) (beside job isJob block found)
          (beside other isOther otherBlock otherFound)
  · intro job isPending other isOther different block found line isLine
    have isJob := List.mem_append_right done isPending
    rw [moves job isJob, Option.map_eq_some_iff] at found
    obtain ⟨block, found, rfl⟩ := found
    rw [Block.linesIn_excise_named? found ordered (beside job isJob block found)] at isLine
    exact progress.unanchored job isPending other isOther different block found line isLine
  · intro job isPending incomplete tag sameName
    exact Nat.le_trans (Block.excise_sublist ordered lines).countP_le
      (progress.single job isPending incomplete tag sameName)

/-- Foreign lines can be put in where they spare the blocks of the pending jobs. -/
theorem insert
    {added : List Text.Line}
    (progress : Progress shared done pending lines)
    (index : Nat)
    (foreign : ∀ other ∈ done ++ pending, Block.ForeignTo other.tag added)
    (spares :
      ∀ other ∈ pending,
        ∀ block, Block.named? other.tag lines = some block → Block.Spares index block) :
    Progress shared done pending (lines.take index ++ (added ++ lines.drop index)) := by
  have moves :
      ∀ other ∈ done ++ pending,
        Block.named? other.tag (lines.take index ++ (added ++ lines.drop index)) =
          (Block.named? other.tag lines).map
            (Block.moved (Block.openedAt index added.length)) :=
    fun other isOther => Block.named?_insert (foreign other isOther) lines index
  constructor
  · intro job isDone
    exact (progress.settled job isDone).moved (moves job (List.mem_append_left pending isDone))
  · intro job isPending other isOther different block found otherBlock otherFound
    rw [moves job (List.mem_append_right done isPending), Option.map_eq_some_iff] at found
    rw [moves other isOther, Option.map_eq_some_iff] at otherFound
    obtain ⟨block, found, rfl⟩ := found
    obtain ⟨otherBlock, otherFound, rfl⟩ := otherFound
    exact
      (progress.apart job isPending other isOther different block found otherBlock
        otherFound).opened index added.length
  · intro job isPending other isOther different block found line isLine
    have isJob := List.mem_append_right done isPending
    rw [moves job isJob, Option.map_eq_some_iff] at found
    obtain ⟨block, found, rfl⟩ := found
    rw [Block.linesIn_insert_named? found (foreign job isJob)
      (spares job isPending block found)] at isLine
    exact progress.unanchored job isPending other isOther different block found line isLine
  · intro job isPending incomplete tag sameName
    have notAdded : added.countP (Marker.isBegin tag) = 0 := by
      rw [List.countP_eq_zero]
      intro line isAdded
      rw [(foreign job (List.mem_append_right done isPending) tag sameName line
        isAdded).notBegin]
      exact Bool.false_ne_true
    have before := progress.single job isPending incomplete tag sameName
    rw [← List.take_append_drop index lines, List.countP_append] at before
    rw [List.countP_append, List.countP_append, notAdded, Nat.zero_add]
    exact before

/-- The block of a job can be written where it spares the blocks of the pending jobs. -/
theorem place
    {tag : Tag}
    {payload : String}
    {index : Nat}
    (progress : Progress shared done pending lines)
    (traceable : job.Traceable shared)
    (different : ∀ other ∈ done ++ pending, other.tag ≠ job.tag)
    (sameName : tag.name = job.tag)
    (complete : job.isComplete shared = .ok true)
    (rendered : job.payload shared = .ok payload)
    (unpaired : Block.Unpaired tag (lines.take index))
    (within : index ≤ lines.length)
    (spares :
      ∀ other ∈ pending,
        ∀ block, Block.named? other.tag lines = some block → Block.Spares index block)
    (returns : Bool) :
    Progress shared (done ++ [job]) pending
      (Merge.placed returns lines index tag payload job.fragment.style) := by
  have payloadUnmarked := traceable.payloadUnmarked payload rendered
  have generated :=
    Merge.generated_written traceable.clean (traceable.unmarked sameName) payloadUnmarked
      returns (lines.length ≤ index)
  have foreign :
      ∀ other ∈ done ++ pending, Block.ForeignTo other.tag
        (Merge.written returns (lines.length ≤ index) tag payload job.fragment.style) := by
    intro other isOther otherTag otherName
    apply generated.foreign
    rintro rfl
    exact different other isOther (otherName.symm.trans sameName)
  have found :
      Block.named? job.tag
          (Merge.placed returns lines index tag payload job.fragment.style) =
        some (Merge.placedBlock index payload) := by
    rw [Block.named?_eq sameName]
    exact Merge.find?_placed traceable.openerTokenless (traceable.tokenless sameName)
      traceable.clean (traceable.unmarked sameName)
      (fun line isLine =>
        Marker.foreign_of_unmarked (payloadUnmarked.of_mem_lines isLine) tag)
      unpaired within returns
  refine (progress.insert index foreign spares).settle
    (Job.settled_of_current complete rendered found
      (Merge.isCurrent_placedBlock index payload)) ?_
  intro other isOther block isBlock otherBlock otherFound
  rw [← Merge.placed, found, Option.some.injEq] at isBlock
  subst isBlock
  rw [Block.named?_insert (foreign other (List.mem_append_right done isOther)),
    Option.map_eq_some_iff] at otherFound
  obtain ⟨before, wasFound, rfl⟩ := otherFound
  refine ((spares other isOther before wasFound).apart_opened rfl ?_).symm
  rw [Merge.length_written]
  rfl

/-- A file that is emptied has one empty line instead of none. -/
private theorem of_ofLines
    {remaining : List Text.Line}
    (progress : Progress shared done pending remaining)
    (fedless : ∀ line ∈ remaining, '\n' ∉ line) :
    Progress shared done pending (Text.lines (Text.ofLines remaining)) := by
  cases remaining with
  | nil =>
      have emptyForeign : ∀ other ∈ done ++ pending, Block.ForeignTo other.tag [[]] := by
        intro other _ tag _ line isLine
        rw [List.mem_singleton.mp isLine]
        exact Marker.foreign_of_unmarked (Marker.unmarked_of_notMem (by simp)) tag
      exact progress.insert 0 emptyForeign fun _ _ _ _ => Or.inl (Nat.zero_le _)
  | cons line others =>
      rw [Text.lines_ofLines (List.cons_ne_nil line others) fedless]
      exact progress

/-- What holds of a text before a job holds afterwards, with the job among those that are done. -/
theorem step
    {text : String}
    {result : MergeResult}
    (progress : Progress shared done (job :: pending) (Text.lines text))
    (ran : job.Done shared text result)
    (traceable : job.Traceable shared)
    (different : ∀ other ∈ done ++ pending, other.tag ≠ job.tag) :
    Progress shared (done ++ [job]) pending (Text.lines result.contents) := by
  have others := progress.tail
  have fedless : ∀ line ∈ Text.lines text, '\n' ∉ line :=
    fun _ => Text.notMem_of_mem_lines
  cases ran with
  | merged tag payload _ sameName complete rendered outcome =>
      have tagFound := Block.named?_eq sameName (Text.lines text)
      cases outcome with
      | fresh index absent located =>
          have unpaired :=
            (Block.find?_eq_none_iff.mp absent).sublist (List.take_sublist index _)
          rw [Merge.lines_ofLines_placed traceable.clean.lacksFeed fedless]
          exact others.place traceable different sameName complete rendered unpaired
            (Anchor.insertionIndex_le located) (progress.spares_fresh different located) _
      | kept existing found current =>
          rw [found] at tagFound
          refine others.settle
            (Job.settled_of_current complete rendered tagFound current) ?_
          intro other isOther block isBlock otherBlock otherFound
          exact
            (progress.beside different isBlock other (List.mem_append_right done isOther)
              otherBlock otherFound).symm
      | replaced existing found stale =>
          rw [found] at tagFound
          have ordered := Nat.le_of_lt (Block.bounds_of_find? found).1
          have beside := progress.beside different tagFound
          rw [Merge.lines_ofLines_placed traceable.clean.lacksFeed
            (existing.forall_mem_excise fedless)]
          exact (others.excise ordered beside).place traceable different sameName complete
            rendered (Block.unpaired_take_excise found) (Block.first_le_length_excise found)
            (spares_replaced ordered beside) _
  | removed tag sameName incomplete =>
      have tagFound := Block.named?_eq sameName (Text.lines text)
      rw [Merge.removeTagged]
      cases found : Block.find? tag (Text.lines text) with
      | none =>
          rw [found] at tagFound
          exact others.settle_absent incomplete tagFound
      | some existing =>
          rw [found] at tagFound
          have ordered := Nat.le_of_lt (Block.bounds_of_find? found).1
          have excised := others.excise ordered (progress.beside different tagFound)
          have single := progress.single job List.mem_cons_self incomplete tag sameName
          have gone :
              Block.named? job.tag (existing.excise (Text.lines text)) = none := by
            rw [Block.named?_eq sameName]
            exact Block.find?_excise_eq_none found single
          exact
            Progress.of_ofLines (excised.settle_absent incomplete gone)
              (existing.forall_mem_excise fedless)

/-- What holds of a text before some jobs holds afterwards, with all of them done. -/
theorem runAll
    {jobs : List Job}
    {text final : String}
    (progress : Progress shared done jobs (Text.lines text))
    (ran : (Job.runAll .sync shared text jobs).2 = .ok final)
    (traceable : ∀ job ∈ jobs, job.Traceable shared)
    (distinct : (done ++ jobs).Pairwise fun first second => first.tag ≠ second.tag) :
    Progress shared (done ++ jobs) [] (Text.lines final) := by
  induction jobs generalizing done text with
  | nil =>
      injection ran with same
      subst final
      rwa [List.append_nil]
  | cons job others inductionHypothesis =>
      obtain ⟨result, ranFirst, ranOthers⟩ := Job.runAll_cons_eq_ok_iff.mp ran
      have different : ∀ other ∈ done ++ others, other.tag ≠ job.tag := by
        rw [List.pairwise_append, List.pairwise_cons] at distinct
        obtain ⟨_, ⟨jobFirst, _⟩, across⟩ := distinct
        intro other isOther
        rcases List.mem_append.mp isOther with isDone | isLater
        · exact across other isDone job List.mem_cons_self
        · exact (jobFirst other isLater).symm
      have next :=
        progress.step (Job.run_sync_eq_ok_iff.mp ranFirst) (traceable job (by simp)) different
      rw [List.append_cons] at distinct ⊢
      exact inductionHypothesis next ranOthers
        (fun other isOther => traceable other (List.mem_cons_of_mem job isOther)) distinct

end Progress

end BlockSync
