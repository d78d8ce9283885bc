import BlockSync.Config.Workspace
import BlockSync.Proofs.Config.Heap

namespace BlockSync

/-!
# What a snapshot keeps

Drafts and snapshots are worked on in any order: data is made of new and old tables, drafts are
started, merge data, have values set, are frozen into snapshots, and snapshots are thawed into
drafts.  A snapshot keeps all of its settings, except that a value that is set through a draft,
inside of a table that the snapshot reaches, shows in the snapshot.
-/

variable {written : Option Write} {heap later : Heap}

/-- Objects that come from others by a write, or by adding some. -/
structure Heap.Grows (written : Option Write) (heap later : Heap) : Prop where
  closed :
    later.Closed
  kept :
    match written with
    | none => heap <+: later
    | some write => heap.IsTable write.number ∧ later = write.on heap

namespace Heap.Grows

/-- There are no fewer objects then. -/
theorem length_le (grows : Grows written heap later) : heap.length ≤ later.length := by
  obtain ⟨_, kept⟩ := grows
  cases written with
  | none =>
      exact kept.length_le
  | some write =>
      rw [kept.2, write.length_on]
      exact Nat.le_add_right _ _

/-- Each table is still one. -/
theorem isTable
    {number : Nat}
    (grows : Grows written heap later)
    (isTable : heap.IsTable number) :
    later.IsTable number := by
  obtain ⟨_, kept⟩ := grows
  cases written with
  | none =>
      exact isTable.of_isPrefix kept
  | some write =>
      exact kept.2 ▸ write.isTable_on isTable

end Heap.Grows

/-- A draft whose slots and whose entries have their objects. -/
structure Draft.Known (heap : Heap) (draft : Draft) : Prop where
  values :
    ∀ entry ∈ draft.values, entry.2.Below heap.length
  entries :
    ∀ entry ∈ draft.entries, heap.IsTable entry.values

/-- The tables in which the values of a snapshot and of its entries are. -/
def Snapshot.tables (snapshot : Snapshot) : List Nat :=
  snapshot.values :: snapshot.entries.map (·.values)

/-- A snapshot whose tables are there, and which lists each excluded pattern once. -/
structure Snapshot.Known (heap : Heap) (snapshot : Snapshot) : Prop where
  tables :
    ∀ number ∈ snapshot.tables, heap.IsTable number
  listedOnce :
    snapshot.exclude.Nodup

/-- A draft keeps its objects. -/
theorem Draft.Known.grow
    {draft : Draft}
    (known : draft.Known heap)
    (grows : Heap.Grows written heap later) :
    draft.Known later where
  values entry member :=
    (known.values entry member).mono grows.length_le
  entries entry member :=
    grows.isTable (known.entries entry member)

/-- A snapshot keeps its tables. -/
theorem Snapshot.Known.grow
    {snapshot : Snapshot}
    (known : snapshot.Known heap)
    (grows : Heap.Grows written heap later) :
    snapshot.Known later where
  tables number member :=
    grows.isTable (known.tables number member)
  listedOnce :=
    known.listedOnce

/-- A snapshot shows the same among other objects exactly if each of its tables does. -/
theorem Snapshot.config_eq_iff
    {snapshot : Snapshot} :
    snapshot.config later = snapshot.config heap ↔
      ∀ number ∈ snapshot.tables, later.table number = heap.table number := by
  have entries_iff :
      snapshot.entries.map (SharedEntry.entry later) =
          snapshot.entries.map (SharedEntry.entry heap) ↔
        ∀ entry ∈ snapshot.entries, later.table entry.values = heap.table entry.values := by
    rw [List.map_inj_left]
    simp [SharedEntry.entry]
  rw [config, config, Settings.mk.injEq, entries_iff, tables, List.forall_mem_cons,
    List.forall_mem_map]
  constructor
  · rintro ⟨_, entries, values, _⟩
    exact ⟨values, entries⟩
  · rintro ⟨values, entries⟩
    exact ⟨rfl, entries, values, rfl, rfl⟩

/-- A snapshot shows the same if the table of its values is copied. -/
theorem Snapshot.config_copy
    {snapshot : Snapshot}
    (closed : heap.Closed)
    (known : snapshot.Known heap) :
    Snapshot.config (heap ++ [.table (heap.entries snapshot.values)])
        { snapshot with values := heap.length } =
      snapshot.config heap := by
  have closedLater : Heap.Closed (heap ++ [.table (heap.entries snapshot.values)]) := by
    refine closed.concat fun slot isHeld => ?_
    obtain ⟨entry, member, rfl⟩ := List.mem_map.mp isHeld
    exact closed.below_of_mem_entries member
  have extended : heap <+: heap ++ [.table (heap.entries snapshot.values)] :=
    List.prefix_append _ _
  have copied :
      Heap.entries (heap ++ [.table (heap.entries snapshot.values)]) heap.length =
        heap.entries snapshot.values := by
    rw [Heap.entries, List.getElem?_concat_length]
  have sameValues :
      Heap.table (heap ++ [.table (heap.entries snapshot.values)]) heap.length =
        heap.table snapshot.values := by
    rw [Heap.table, copied]
    refine List.map_congr_left fun entry member => ?_
    rw [closed.value_of_isPrefix closedLater extended (closed.below_of_mem_entries member)]
  have sameEntries :
      snapshot.entries.map
          (SharedEntry.entry (heap ++ [.table (heap.entries snapshot.values)])) =
        snapshot.entries.map (SharedEntry.entry heap) := by
    refine List.map_congr_left fun entry member => ?_
    have isTable : heap.IsTable entry.values :=
      known.tables _ (List.mem_cons_of_mem _ (List.mem_map_of_mem member))
    rw [SharedEntry.entry, SharedEntry.entry,
      closed.table_of_isPrefix closedLater extended isTable]
  rw [config, config, sameValues, sameEntries]

namespace Workspace

variable {workspace : Workspace}

/-- A workspace that comes from another one by a write or by adding objects. -/
structure Follows (written : Option Write) (before later : Workspace) : Prop where
  heap :
    Heap.Grows written before.heap later.heap
  draft :
    later.draft.Known later.heap
  snapshot :
    ∀ snapshot ∈ later.snapshot, snapshot.Known later.heap

/-- Entries get tables of their own, which are added to the objects. -/
theorem share_spec
    (closed : heap.Closed)
    (entries : List Entry)
    (slots : List Slot) :
    heap <+: (heap.share entries slots).1 ∧
      (heap.share entries slots).1.Closed ∧
      ∀ entry ∈ (heap.share entries slots).2,
        (heap.share entries slots).1.IsTable entry.values := by
  induction entries generalizing heap slots with
  | nil =>
      exact ⟨List.prefix_rfl, closed, fun _ member => (List.not_mem_nil member).elim⟩
  | cons entry entries inductionHypothesis =>
      cases slots with
      | nil =>
          exact ⟨List.prefix_rfl, closed, fun _ member => (List.not_mem_nil member).elim⟩
      | cons slot slots =>
          have closedNext : Heap.Closed (heap ++ [.table (heap.entriesUnder slot "values")]) := by
            refine closed.concat fun value isHeld => ?_
            obtain ⟨item, member, rfl⟩ := List.mem_map.mp isHeld
            exact closed.below_of_mem_entriesUnder member
          have isTable :
              Heap.IsTable (heap ++ [.table (heap.entriesUnder slot "values")]) heap.length :=
            ⟨_, List.getElem?_concat_length⟩
          obtain ⟨extended, closedLater, tables⟩ := inductionHypothesis closedNext slots
          refine ⟨(List.prefix_append _ _).trans extended, closedLater, ?_⟩
          exact List.forall_mem_cons.mpr ⟨isTable.of_isPrefix extended, tables⟩

/-- Slots that are put under keys one after another are among the objects if all of them are. -/
theorem below_of_mem_putSlots
    {count : Nat}
    {added slots : List (String × Slot)}
    (addedBelow : ∀ entry ∈ added, entry.2.Below count)
    (slotsBelow : ∀ entry ∈ slots, entry.2.Below count) :
    ∀ entry ∈ putSlots added slots, entry.2.Below count := by
  induction added generalizing slots with
  | nil =>
      exact slotsBelow
  | cons _ others inductionHypothesis =>
      obtain ⟨below, othersBelow⟩ := List.forall_mem_cons.mp addedBelow
      refine inductionHypothesis othersBelow fun entry member => ?_
      rcases mem_putSlot member with rfl | isOld
      · exact below
      · exact slotsBelow entry isOld

/-- Merging adds tables for the values of entries. -/
theorem follows_merge
    (closed : workspace.heap.Closed)
    (known : workspace.draft.Known workspace.heap)
    (unfrozen : workspace.snapshot = none)
    (data : Nat)
    (source : Option FilePath) :
    Follows none workspace (workspace.merge data source).1 := by
  rw [merge]
  generalize Layer.read (workspace.heap.table data) source = reading
  obtain ⟨extended, closedLater, tables⟩ :=
    share_spec closed reading.1.entries (workspace.heap.itemsUnder (.shared data) "fragments")
  have grows : Heap.Grows none workspace.heap
      (workspace.heap.share reading.1.entries
        (workspace.heap.itemsUnder (.shared data) "fragments")).1 :=
    ⟨closedLater, extended⟩
  refine ⟨grows, ⟨?_, ?_⟩, fun _ member => nomatch unfrozen ▸ member⟩
  · refine below_of_mem_putSlots (fun entry member => ?_) (known.grow grows).values
    have isValue := List.mem_of_mem_take member
    exact (closed.below_of_mem_entriesUnder isValue).mono grows.length_le
  · intro entry member
    rcases List.mem_append.mp member with isOld | isNew
    · exact (known.grow grows).entries entry isOld
    · exact tables entry isNew

/-- The write by which a value is set goes into a table. -/
theorem isTable_of_write?
    {key : String}
    {value : PlainValue}
    {write : Write}
    (writes : workspace.write? key value = some write) :
    workspace.heap.IsTable write.number := by
  rw [write?] at writes
  split at writes
  · next first next others _ =>
    split at writes
    · next number found =>
      obtain ⟨slot, _, isTable⟩ := Option.bind_eq_some_iff.mp found
      cases writes
      exact (Heap.tableIn?_eq_some_iff.mp isTable).2.descend next others
    · cases writes
  · cases writes

/-- A value is set by a write into a shared table, or inside of new tables. -/
theorem follows_set
    (closed : workspace.heap.Closed)
    (known : workspace.draft.Known workspace.heap)
    (unfrozen : workspace.snapshot = none)
    (key : String)
    (value : PlainValue) :
    Follows (workspace.write? key value) workspace (workspace.set key value) := by
  have keepsNone : ∀ {heap}, ∀ snapshot ∈ workspace.snapshot, snapshot.Known heap :=
    fun _ member => nomatch unfrozen ▸ member
  rw [set]
  cases writes : workspace.write? key value with
  | some write =>
      have grows : Heap.Grows (some write) workspace.heap (write.on workspace.heap) :=
        ⟨write.closed_on closed, isTable_of_write? writes, rfl⟩
      exact ⟨grows, known.grow grows, keepsNone⟩
  | none =>
      cases Table.keyParts key with
      | nil =>
          exact ⟨⟨closed, List.prefix_rfl⟩, known, keepsNone⟩
      | cons first others =>
          have grows : Heap.Grows none workspace.heap
              (workspace.heap ++ (nest value workspace.heap.length others).2) :=
            ⟨closed.append_nest rfl fun _ cell found => ⟨cell, found, fun _ => .inl⟩,
              List.prefix_append _ _⟩
          refine ⟨grows, ⟨fun entry member => ?_, (known.grow grows).entries⟩, keepsNone⟩
          rcases mem_putSlot member with rfl | isOld
          · rw [List.length_append]
            exact nest_below value workspace.heap.length others
          · exact (known.grow grows).values entry isOld

/-- A snapshot is taken with a new table. -/
theorem follows_freeze
    (closed : workspace.heap.Closed)
    (known : workspace.draft.Known workspace.heap) :
    Follows none workspace workspace.freeze := by
  have grows : Heap.Grows none workspace.heap
      (workspace.heap ++ [.table workspace.draft.values]) := by
    refine ⟨closed.concat fun slot isHeld => ?_, List.prefix_append _ _⟩
    obtain ⟨entry, member, rfl⟩ := List.mem_map.mp isHeld
    exact known.values entry member
  refine ⟨grows, known.grow grows, ?_⟩
  rintro snapshot isSnapshot
  cases isSnapshot
  refine ⟨?_, nodup_eraseDups _⟩
  rw [Snapshot.tables, List.forall_mem_cons, List.forall_mem_map]
  exact ⟨⟨_, List.getElem?_concat_length⟩, (known.grow grows).entries⟩

end Workspace

/-- Objects with the drafts and snapshots that share them. -/
structure Archive where
  heap : Heap
  drafts : List Draft
  snapshots : List Snapshot

namespace Archive

/--
What is done with objects, drafts and snapshots, each of which are numbered in order.  Data for a
draft is put together of objects that hold each other, before it is merged.
-/
inductive Step where
  | provide (cell : Cell)
  | start (root : FilePath)
  | merge (draft data : Nat) (source : Option FilePath)
  | set (draft : Nat) (key : String) (value : PlainValue)
  | freeze (draft : Nat)
  | thaw (snapshot : Nat)

/-- The archive before anything is done. -/
def empty : Archive := ⟨[], [], []⟩

/-- The workspace of a draft. -/
def workspace? (archive : Archive) (draft : Nat) : Option Workspace :=
  archive.drafts[draft]?.map fun settings => ⟨archive.heap, settings, none⟩

/-- Works on a draft, if there is one with the number, and keeps the snapshot that is taken. -/
def edit (archive : Archive) (draft : Nat) (work : Workspace → Workspace) : Archive :=
  match archive.workspace? draft with
  | none => archive
  | some workspace =>
      let later := work workspace
      { heap := later.heap
        drafts := archive.drafts.set draft later.draft
        snapshots := archive.snapshots ++ later.snapshot.toList }

/-- The workspace in which a snapshot is thawed. -/
def thawed (archive : Archive) (snapshot : Snapshot) : Option Workspace :=
  Workspace.thaw? ⟨archive.heap, { snapshot with values := [] }, some snapshot⟩

/--
The archive after a step.  A step on a number that is not there does nothing, and neither does one
that merges what is no table.
-/
def after (archive : Archive) : Step → Archive
  | .provide cell =>
      if ∀ slot ∈ cell.slots, slot.Below archive.heap.length then
        { archive with heap := archive.heap ++ [cell] }
      else
        archive
  | .start root =>
      { archive with drafts := archive.drafts ++ [.initial root] }
  | .merge draft data source =>
      if (archive.heap.tableIn? (.shared data)).isSome then
        archive.edit draft fun workspace => (workspace.merge data source).1
      else
        archive
  | .set draft key value =>
      archive.edit draft fun workspace => workspace.set key value
  | .freeze draft =>
      archive.edit draft Workspace.freeze
  | .thaw snapshot =>
      match archive.snapshots[snapshot]?.bind archive.thawed with
      | none => archive
      | some workspace => { archive with drafts := archive.drafts ++ [workspace.draft] }

/-- The archive after steps, one after another. -/
def afterAll (archive : Archive) (steps : List Step) : Archive :=
  steps.foldl after archive

/-- The write into a shared table that a step is, if it is one. -/
def write? (archive : Archive) : Step → Option Write
  | .set draft key value =>
      (archive.workspace? draft).bind fun workspace => workspace.write? key value
  | _ => none

/-- A snapshot as a configuration. -/
def config? (archive : Archive) (snapshot : Nat) : Option Config :=
  archive.snapshots[snapshot]?.map (Snapshot.config archive.heap)

/--
Whether a step leaves a snapshot alone: what it writes into a table that the snapshot reaches is
there already.
-/
def Spares (archive : Archive) (snapshot : Snapshot) (step : Step) : Prop :=
  ∀ write ∈ archive.write? step,
    (∃ number ∈ snapshot.tables, archive.heap.Reaches write.number (.shared number)) →
      write.IsThere archive.heap

/-- Whether each of some steps leaves a snapshot alone. -/
def SparesAll (snapshot : Snapshot) : Archive → List Step → Prop
  | _, [] => True
  | archive, step :: others =>
      archive.Spares snapshot step ∧ SparesAll snapshot (archive.after step) others

/-- An archive whose drafts and snapshots have their objects. -/
structure Known (archive : Archive) : Prop where
  heap :
    archive.heap.Closed
  drafts :
    ∀ draft ∈ archive.drafts, draft.Known archive.heap
  snapshots :
    ∀ snapshot ∈ archive.snapshots, snapshot.Known archive.heap

/-- An archive that comes from another one by a write, or by adding something. -/
structure Follows (written : Option Write) (before later : Archive) : Prop where
  heap :
    Heap.Grows written before.heap later.heap
  snapshots :
    before.snapshots <+: later.snapshots
  known :
    later.Known

variable {archive : Archive} {snapshot : Snapshot}

/-- There is nothing in the empty archive. -/
theorem known_empty : empty.Known where
  heap :=
    ⟨id, fun _ _ found => nomatch found⟩
  drafts :=
    fun _ member => nomatch member
  snapshots :=
    fun _ member => nomatch member

/-- Nothing happens in no step. -/
theorem Known.follows (known : archive.Known) : Follows none archive archive :=
  ⟨⟨known.heap, List.prefix_rfl⟩, List.prefix_rfl, known⟩

/-- Another draft changes nothing about the objects and the snapshots. -/
theorem Known.follows_draft
    (known : archive.Known)
    {draft : Draft}
    (also : draft.Known archive.heap) :
    Follows none archive { archive with drafts := archive.drafts ++ [draft] } where
  heap :=
    ⟨known.heap, List.prefix_rfl⟩
  snapshots :=
    List.prefix_rfl
  known :=
    { known with
      drafts := fun other member =>
        (List.mem_append.mp member).elim (known.drafts other)
          fun isNew => List.mem_singleton.mp isNew ▸ also }

/-- Another object changes nothing about the drafts and the snapshots. -/
theorem Known.follows_provide
    (known : archive.Known)
    {cell : Cell}
    (below : ∀ slot ∈ cell.slots, slot.Below archive.heap.length) :
    Follows none archive { archive with heap := archive.heap ++ [cell] } := by
  have grows : Heap.Grows none archive.heap (archive.heap ++ [cell]) :=
    ⟨known.heap.concat below, List.prefix_append _ _⟩
  exact
    ⟨grows, List.prefix_rfl, grows.closed,
      fun draft member => (known.drafts draft member).grow grows,
      fun snapshot member => (known.snapshots snapshot member).grow grows⟩

/-- Work on a draft goes into the archive. -/
theorem Known.follows_edit
    (known : archive.Known)
    {draft : Nat}
    {work : Workspace → Workspace}
    {written : Option Write}
    (idle : archive.workspace? draft = none → written = none)
    (worked :
      ∀ settings ∈ archive.drafts,
        archive.workspace? draft = some ⟨archive.heap, settings, none⟩ →
          Workspace.Follows written ⟨archive.heap, settings, none⟩
            (work ⟨archive.heap, settings, none⟩)) :
    Follows written archive (archive.edit draft work) := by
  cases isWorkspace : archive.workspace? draft with
  | none =>
      rw [edit, isWorkspace, idle isWorkspace]
      exact known.follows
  | some workspace =>
      obtain ⟨settings, found, rfl⟩ := Option.map_eq_some_iff.mp isWorkspace
      have follows := worked settings (List.mem_of_getElem? found) isWorkspace
      rw [edit, isWorkspace]
      refine ⟨follows.heap, List.prefix_append _ _, follows.heap.closed, ?_, ?_⟩
      · intro other member
        rcases List.mem_or_eq_of_mem_set member with isOld | rfl
        · exact (known.drafts other isOld).grow follows.heap
        · exact follows.draft
      · intro snapshot member
        rcases List.mem_append.mp member with isOld | isNew
        · exact (known.snapshots snapshot isOld).grow follows.heap
        · exact follows.snapshot snapshot (Option.mem_toList.mp isNew)

/-- A step writes into a shared table as told, or adds something. -/
theorem Known.follows_after
    (known : archive.Known)
    (step : Step) :
    Follows (archive.write? step) archive (archive.after step) := by
  cases step with
  | provide cell =>
      rw [after]
      split
      · next below => exact known.follows_provide below
      · exact known.follows
  | start root =>
      exact
        known.follows_draft
          ⟨fun _ member => (List.not_mem_nil member).elim,
            fun _ member => (List.not_mem_nil member).elim⟩
  | merge draft data source =>
      rw [after]
      split
      · exact
          known.follows_edit (fun _ => rfl) fun settings member _ =>
            Workspace.follows_merge known.heap (known.drafts settings member) rfl data source
      · exact known.follows
  | set draft key value =>
      refine known.follows_edit (fun absent => ?_) fun settings member present => ?_
      · rw [write?, absent]
        rfl
      · rw [write?, present]
        exact Workspace.follows_set known.heap (known.drafts settings member) rfl key value
  | freeze draft =>
      exact
        known.follows_edit (fun _ => rfl) fun settings member _ =>
          Workspace.follows_freeze known.heap (known.drafts settings member)
  | thaw snapshot =>
      rw [after]
      cases found : archive.snapshots[snapshot]? with
      | none =>
          exact known.follows
      | some settings =>
          have knownHere := known.snapshots settings (List.mem_of_getElem? found)
          refine known.follows_draft ⟨fun entry member => ?_, fun entry member => ?_⟩
          · exact known.heap.below_of_mem_entries member
          · exact knownHere.tables _ (List.mem_cons_of_mem _ (List.mem_map_of_mem member))

/-- Steps add snapshots to an archive, and all its drafts and snapshots still have their objects. -/
theorem Known.afterAll
    (known : archive.Known)
    (steps : List Step) :
    (archive.afterAll steps).Known ∧ archive.snapshots <+: (archive.afterAll steps).snapshots := by
  induction steps generalizing archive with
  | nil =>
      exact ⟨known, List.prefix_rfl⟩
  | cons step others inductionHypothesis =>
      have first := known.follows_after step
      obtain ⟨knownLater, extended⟩ := inductionHypothesis first.known
      exact ⟨knownLater, first.snapshots.trans extended⟩

/-- A snapshot shows the same after a step exactly if the step leaves it alone. -/
theorem Known.config_after_iff
    (known : archive.Known)
    (knownHere : snapshot.Known archive.heap)
    (step : Step) :
    snapshot.config (archive.after step).heap = snapshot.config archive.heap ↔
      archive.Spares snapshot step := by
  obtain ⟨closedLater, kept⟩ := (known.follows_after step).heap
  rw [Snapshot.config_eq_iff, Spares]
  cases writes : archive.write? step with
  | none =>
      rw [writes] at kept
      constructor
      · rintro _ write isWrite
        cases isWrite
      · intro _ number member
        exact known.heap.table_of_isPrefix closedLater kept (knownHere.tables number member)
  | some write =>
      rw [writes] at kept
      obtain ⟨isTable, isLater⟩ := kept
      rw [isLater] at closedLater ⊢
      constructor
      · rintro same other isWrite ⟨number, member, reaches⟩
        cases isWrite
        have isTableHere := knownHere.tables number member
        by_contra notThere
        refine write.value_on_ne known.heap isTable notThere reaches ?_
        rw [isTableHere.value_eq known.heap, (write.isTable_on isTableHere).value_eq closedLater,
          same number member]
      · intro spares number member
        have isTableHere := knownHere.tables number member
        refine Value.table.inj ?_
        rw [← isTableHere.value_eq known.heap,
          ← (write.isTable_on isTableHere).value_eq closedLater]
        exact
          write.value_on known.heap isTable isTableHere.below fun reaches =>
            spares write rfl ⟨number, member, reaches⟩

/-- A snapshot shows the same all through some steps exactly if each of them leaves it alone. -/
theorem Known.config_afterAll_iff
    (known : archive.Known)
    (knownHere : snapshot.Known archive.heap)
    (steps : List Step) :
    (∀ done, done <+: steps →
        snapshot.config (archive.afterAll done).heap = snapshot.config archive.heap) ↔
      SparesAll snapshot archive steps := by
  induction steps generalizing archive with
  | nil =>
      refine ⟨fun _ => trivial, fun _ done isDone => ?_⟩
      rw [List.prefix_nil.mp isDone]
      rfl
  | cons step others inductionHypothesis =>
      have first := known.follows_after step
      have later := inductionHypothesis first.known (knownHere.grow first.heap)
      rw [SparesAll, ← known.config_after_iff knownHere step, ← later]
      constructor
      · intro same
        have sameFirst := same [step] (List.prefix_append [step] others)
        refine ⟨sameFirst, fun done isDone => ?_⟩
        exact (same (step :: done) (List.cons_prefix_cons.mpr ⟨rfl, isDone⟩)).trans sameFirst.symm
      · rintro ⟨sameFirst, sameLater⟩ done isDone
        cases done with
        | nil =>
            rfl
        | cons other done =>
            obtain ⟨rfl, isDoneLater⟩ := List.cons_prefix_cons.mp isDone
            exact (sameLater done isDoneLater).trans sameFirst

/-- A snapshot that is thawed and frozen again is another snapshot that shows the same. -/
theorem Known.config?_thaw_freeze
    (known : archive.Known)
    {index : Nat}
    (found : archive.snapshots[index]? = some snapshot) :
    ((archive.after (.thaw index)).after (.freeze archive.drafts.length)).config?
        archive.snapshots.length =
      archive.config? index := by
  have knownHere := known.snapshots snapshot (List.mem_of_getElem? found)
  have thawed :
      archive.after (.thaw index) =
        { archive with
          drafts := archive.drafts ++
            [{ snapshot with values := archive.heap.entries snapshot.values }] } := by
    rw [after, found]
    rfl
  have frozen :
      ((archive.after (.thaw index)).after (.freeze archive.drafts.length)).config?
          archive.snapshots.length =
        some
          (Snapshot.config (archive.heap ++ [.table (archive.heap.entries snapshot.values)])
            { snapshot with values := archive.heap.length }) := by
    rw [thawed, after, edit, workspace?, List.getElem?_concat_length]
    simp [config?, Workspace.freeze, Settings.frozen, eraseDups_of_nodup knownHere.listedOnce]
  rw [frozen, Snapshot.config_copy known.heap knownHere, config?, found, Option.map_some]

/--
A snapshot keeps its settings, and after any steps its tables show what they show then.  So it is
the same all through further steps exactly if each of them leaves it alone: what is written into a
table that it reaches is there already.  A snapshot that is thawed is frozen into the same again.
-/
theorem snapshot_afterAll
    (earlier later : List Step)
    (index : Nat)
    (isSnapshot : index < (empty.afterAll earlier).snapshots.length) :
    let archive := empty.afterAll earlier
    ∃ snapshot,
      archive.snapshots[index]? = some snapshot ∧
        (∀ steps,
          (archive.afterAll steps).config? index =
            some (snapshot.config (archive.afterAll steps).heap)) ∧
        ((∀ done, done <+: later →
            (archive.afterAll done).config? index = archive.config? index) ↔
          SparesAll snapshot archive later) ∧
        ((archive.after (.thaw index)).after (.freeze archive.drafts.length)).config?
            archive.snapshots.length =
          archive.config? index := by
  intro archive
  have known : archive.Known := (known_empty.afterAll earlier).1
  have found : archive.snapshots[index]? = some archive.snapshots[index] :=
    List.getElem?_eq_getElem isSnapshot
  have knownHere := known.snapshots _ (List.getElem_mem isSnapshot)
  have shows : ∀ steps,
      (archive.afterAll steps).config? index =
        some (archive.snapshots[index].config (archive.afterAll steps).heap) := by
    intro steps
    have extended := (known.afterAll steps).2
    rw [config?, List.prefix_iff_getElem?.mp extended index isSnapshot, Option.map_some]
  have showsNow : archive.config? index = some (archive.snapshots[index].config archive.heap) :=
    shows []
  refine ⟨_, found, shows, ?_, known.config?_thaw_freeze found⟩
  rw [← known.config_afterAll_iff knownHere later]
  refine forall₂_congr fun done _ => ?_
  rw [shows done, showsNow, Option.some_inj]

/-- A snapshot of a draft that merges a table of values, with a table inside. -/
def nestedSteps : List Step :=
  [.provide (.table [("k", .plain (.ofString "1"))]), .provide (.table [("a", .shared 0)]),
    .provide (.table [("values", .shared 1)]), .start ⟨"/", []⟩, .merge 0 2 none, .freeze 0]

/-- The snapshot stays the same when a value is set next to its table. -/
theorem snapshot_afterAll_beside :
    0 < (empty.afterAll nestedSteps).snapshots.length ∧
      ((empty.afterAll nestedSteps).afterAll [.set 0 "b" (.ofString "2")]).config? 0 =
        (empty.afterAll nestedSteps).config? 0 := by
  have isSnapshot : 0 < (empty.afterAll nestedSteps).snapshots.length := by
    decide +kernel
  have unwritten :
      (empty.afterAll nestedSteps).write? (.set 0 "b" (.ofString "2")) = none :=
    Option.isNone_iff_eq_none.mp (by decide +kernel)
  obtain ⟨snapshot, _, _, same_iff, _⟩ :=
    snapshot_afterAll nestedSteps [.set 0 "b" (.ofString "2")] 0 isSnapshot
  refine ⟨isSnapshot, same_iff.mpr ⟨?_, trivial⟩ _ List.prefix_rfl⟩
  rw [Spares, unwritten]
  intro write isWrite
  cases isWrite

/-- The snapshot changes when a value is set inside its table through the draft it was taken of. -/
theorem snapshot_afterAll_inside :
    ((empty.afterAll nestedSteps).afterAll [.set 0 "a.k" (.ofString "2")]).config? 0 ≠
      (empty.afterAll nestedSteps).config? 0 := by
  intro same
  have texts := congrArg (Option.map fun config => Value.detail? (.table config.values)) same
  revert texts
  decide +kernel

-- The same happens through another draft that merges the same data.
example :
    ((((empty.afterAll nestedSteps).afterAll
          [.start ⟨"/", []⟩, .merge 1 2 none, .set 1 "a.k" (.ofString "2")]).config? 0).bind
        fun config => Value.detail? (.table config.values)) =
      some "\x7b'a': \x7b'k': '2'\x7d\x7d" := by
  decide +kernel

end Archive

end BlockSync
