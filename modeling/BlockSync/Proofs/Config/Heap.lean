import BlockSync.Config.Heap
import BlockSync.Proofs.Value.Table

namespace BlockSync

/-!
# Writes into shared tables

Objects hold each other in such a way that none holds itself, so what they show can be told by
going down from an object to those that it holds.  A write shows in whatever reaches the table that
it goes into, unless the table has just the same under its key before.  It shows nowhere else, and
neither do objects that are added.
-/

variable {heap later : Heap} {number count : Nat} {slot : Slot}

/-- Whether a slot holds none but the first so many objects. -/
def Slot.Below (count : Nat) : Slot → Prop
  | .plain _ => True
  | .shared number => number < count

/-- Whether a slot holds none but the first objects can be computed. -/
instance (count : Nat) : (slot : Slot) → Decidable (slot.Below count)
  | .plain _ => .isTrue trivial
  | .shared number => inferInstanceAs (Decidable (number < count))

/-- A slot holds none but more objects if there are more. -/
theorem Slot.Below.mono
    {more : Nat}
    (below : slot.Below count)
    (fewer : count ≤ more) :
    slot.Below more := by
  cases slot with
  | plain value =>
      trivial
  | shared number =>
      exact Nat.lt_of_lt_of_le below fewer

/-- The slots of a table with one more put under a key are that slot and old ones. -/
theorem mem_putSlot
    {key : String}
    {item : String × Slot}
    {entries : List (String × Slot)}
    (member : item ∈ putSlot key slot entries) :
    item = (key, slot) ∨ item ∈ entries := by
  induction entries with
  | nil =>
      exact .inl (List.mem_singleton.mp member)
  | cons first rest inductionHypothesis =>
      obtain ⟨other, old⟩ := first
      rw [putSlot] at member
      split at member
      · rcases List.mem_cons.mp member with isPut | isOld
        · exact .inl isPut
        · exact .inr (List.mem_cons_of_mem _ isOld)
      · rcases List.mem_cons.mp member with isFirst | isLater
        · exact .inr (isFirst ▸ List.mem_cons_self)
        · exact (inductionHypothesis isLater).imp_right (List.mem_cons_of_mem _)

/-- A slot that is put under a key shows as its value does that is stored under the key. -/
theorem map_putSlot
    (view : Slot → Value)
    (key : String)
    (slot : Slot)
    (entries : List (String × Slot)) :
    (putSlot key slot entries).map (fun entry => (entry.1, view entry.2)) =
      Table.insert key (view slot) (entries.map fun entry => (entry.1, view entry.2)) := by
  induction entries with
  | nil =>
      rfl
  | cons entry rest inductionHypothesis =>
      rw [putSlot, List.map_cons, Table.insert, ← inductionHypothesis]
      split <;> rfl

/-- An object shows the same exactly if all of its slots do. -/
theorem Cell.value_eq_iff
    {before after : Slot → Value}
    {cell : Cell} :
    cell.value before = cell.value after ↔ ∀ slot ∈ cell.slots, before slot = after slot := by
  cases cell with
  | table entries =>
      rw [value, value, Value.table.injEq, List.map_inj_left, slots, List.forall_mem_map]
      simp only [Prod.mk.injEq, true_and]
  | list items =>
      rw [value, value, Value.list.injEq, List.map_inj_left, slots]

namespace Heap

/-- Whether objects hold only such as have a lower rank, and ranks are lower than their number. -/
def RankedBy (heap : Heap) (rank : Nat → Nat) : Prop :=
  ∀ number cell, heap[number]? = some cell →
    rank number < heap.length ∧
      ∀ inner, .shared inner ∈ cell.slots → inner < heap.length ∧ rank inner < rank number

/-- Whether objects hold none but each other, and none holds itself, not even through others. -/
def Closed (heap : Heap) : Prop :=
  ∃ rank, heap.RankedBy rank

/-- Whether a number is that of a table. -/
def IsTable (heap : Heap) (number : Nat) : Prop :=
  ∃ entries, heap[number]? = some (.table entries)

/-- Whether an object is reached from a slot: it is in the slot, or reached from what is there. -/
inductive Reaches (heap : Heap) (target : Nat) : Slot → Prop
  | here :
      Reaches heap target (.shared target)
  | through
      {number : Nat}
      {cell : Cell}
      {slot : Slot}
      (found : heap[number]? = some cell)
      (isHeld : slot ∈ cell.slots)
      (reaches : Reaches heap target slot) :
      Reaches heap target (.shared number)

namespace RankedBy

variable {rank : Nat → Nat}

/-- What objects hold is among them. -/
theorem below
    (ranked : heap.RankedBy rank)
    {cell : Cell}
    (found : heap[number]? = some cell)
    (isHeld : slot ∈ cell.slots) :
    slot.Below heap.length := by
  cases slot with
  | plain value =>
      trivial
  | shared inner =>
      exact ((ranked number cell found).2 inner isHeld).1

/-- A value shows as a whole as soon as its rank is gone through. -/
theorem valueTo_add
    (ranked : heap.RankedBy rank)
    {depth : Nat}
    (within : ∀ inner, slot = .shared inner → inner < heap.length ∧ rank inner < depth)
    (more : Nat) :
    heap.valueTo (depth + more) slot = heap.valueTo depth slot := by
  induction depth generalizing slot with
  | zero =>
      cases slot with
      | plain value =>
          cases more <;> rfl
      | shared number =>
          exact absurd (within number rfl).2 (Nat.not_lt_zero _)
  | succ depth inductionHypothesis =>
      rw [Nat.add_right_comm]
      cases slot with
      | plain value =>
          rfl
      | shared number =>
          obtain ⟨isNumber, low⟩ := within number rfl
          have found : heap[number]? = some heap[number] := List.getElem?_eq_getElem isNumber
          rw [valueTo, valueTo, found]
          refine Cell.value_eq_iff.mpr fun slot isHeld => ?_
          refine inductionHypothesis fun inner isInner => ?_
          obtain ⟨isThere, lower⟩ := (ranked number _ found).2 inner (isInner ▸ isHeld)
          exact ⟨isThere, Nat.lt_of_lt_of_le lower (Nat.le_of_lt_succ low)⟩

end RankedBy

namespace Closed

/-- What objects hold is among them. -/
theorem below
    (closed : heap.Closed)
    {cell : Cell}
    (found : heap[number]? = some cell)
    (isHeld : slot ∈ cell.slots) :
    slot.Below heap.length := by
  obtain ⟨rank, ranked⟩ := closed
  exact ranked.below found isHeld

/-- An object shows as the values in its slots do. -/
theorem value_shared
    (closed : heap.Closed)
    {cell : Cell}
    (found : heap[number]? = some cell) :
    heap.value (.shared number) = cell.value heap.value := by
  obtain ⟨rank, ranked⟩ := closed
  obtain ⟨low, lower⟩ := ranked number cell found
  have deeper : heap.valueTo (heap.length + 1) (.shared number) = heap.value (.shared number) := by
    refine ranked.valueTo_add (fun inner isInner => ?_) 1
    cases isInner
    exact ⟨(List.getElem?_eq_some_iff.mp found).1, low⟩
  rw [← deeper, valueTo, found]
  rfl

/-- What holds of plain values, and of an object if of all that it holds, holds of every value. -/
theorem induction
    (closed : heap.Closed)
    {motive : Slot → Prop}
    (plain : ∀ value, motive (.plain value))
    (shared : ∀ number cell, heap[number]? = some cell →
      (∀ slot ∈ cell.slots, motive slot) → motive (.shared number))
    (below : slot.Below heap.length) :
    motive slot := by
  obtain ⟨rank, ranked⟩ := closed
  -- By induction on a bound of the rank, since only objects have one.
  have ofRank : ∀ bound number, number < heap.length → rank number < bound →
      motive (.shared number) := by
    intro bound
    induction bound with
    | zero =>
        exact fun _ _ low => absurd low (Nat.not_lt_zero _)
    | succ bound inductionHypothesis =>
        intro number isNumber low
        have found : heap[number]? = some heap[number] := List.getElem?_eq_getElem isNumber
        refine shared number _ found fun slot isHeld => ?_
        cases slot with
        | plain value =>
            exact plain value
        | shared inner =>
            obtain ⟨isInner, lower⟩ := (ranked number _ found).2 inner isHeld
            exact
              inductionHypothesis inner isInner
                (Nat.lt_of_lt_of_le lower (Nat.le_of_lt_succ low))
  cases slot with
  | plain value =>
      exact plain value
  | shared number =>
      exact ofRank (rank number + 1) number below (Nat.lt_succ_self _)

end Closed

/-- A plain value shows as it is. -/
theorem value_plain (heap : Heap) (plain : PlainValue) :
    heap.value (.plain plain) = plain.value := by
  rw [value, valueTo]

/-- A table shows as its entries do. -/
theorem IsTable.value_eq
    (isTable : heap.IsTable number)
    (closed : heap.Closed) :
    heap.value (.shared number) = .table (heap.table number) := by
  obtain ⟨entries, found⟩ := isTable
  rw [closed.value_shared found, table, Heap.entries, found, Cell.value]

/-- The number of a table is that of an object. -/
theorem IsTable.lt_length (isTable : heap.IsTable number) : number < heap.length := by
  obtain ⟨entries, found⟩ := isTable
  exact (List.getElem?_eq_some_iff.mp found).1

/-- A slot with a table is one of objects that are there. -/
theorem IsTable.below (isTable : heap.IsTable number) : (Slot.shared number).Below heap.length :=
  isTable.lt_length

/-- A slot has a table if its number is that of a table. -/
theorem tableIn?_eq_some_iff :
    heap.tableIn? slot = some number ↔ slot = .shared number ∧ heap.IsTable number := by
  cases slot with
  | plain value =>
      simp [tableIn?]
  | shared other =>
      rw [tableIn?, Slot.shared.injEq]
      constructor
      · intro isTable
        split at isTable
        · next entries found =>
          cases isTable
          exact ⟨rfl, entries, found⟩
        · cases isTable
      · rintro ⟨rfl, entries, found⟩
        rw [found]

/-- A table stays one when there are more objects. -/
theorem IsTable.of_isPrefix
    (isTable : heap.IsTable number)
    (extended : heap <+: later) :
    later.IsTable number := by
  obtain ⟨entries, found⟩ := isTable
  obtain ⟨isNumber, isCell⟩ := List.getElem?_eq_some_iff.mp found
  exact ⟨entries, isCell ▸ List.prefix_iff_getElem?.mp extended number isNumber⟩

namespace Closed

/-- The entries of a table are slots of objects. -/
theorem below_of_mem_entries
    (closed : heap.Closed)
    {entry : String × Slot}
    (member : entry ∈ heap.entries number) :
    entry.2.Below heap.length := by
  rw [entries] at member
  split at member
  · next entries found =>
    exact closed.below found (List.mem_map_of_mem member)
  · exact (List.not_mem_nil member).elim

/-- So are those of a table inside of another one. -/
theorem below_of_mem_entriesUnder
    (closed : heap.Closed)
    {key : String}
    {entry : String × Slot}
    (member : entry ∈ heap.entriesUnder slot key) :
    entry.2.Below heap.length := by
  rw [entriesUnder] at member
  split at member
  · next inner _ =>
    cases inner with
    | plain value =>
        exact (List.not_mem_nil member).elim
    | shared number =>
        exact closed.below_of_mem_entries member
  · exact (List.not_mem_nil member).elim

/-- Objects stay closed when one is added that holds some of them. -/
theorem concat
    (closed : heap.Closed)
    {cell : Cell}
    (below : ∀ slot ∈ cell.slots, slot.Below heap.length) :
    Closed (heap ++ [cell]) := by
  obtain ⟨rank, ranked⟩ := closed
  -- The new object is above all others.
  refine ⟨fun number => if number < heap.length then rank number else heap.length, ?_⟩
  intro number other found
  dsimp only
  rw [List.length_append, List.length_singleton]
  have lower : ∀ inner < heap.length, rank inner < heap.length :=
    fun inner isInner => (ranked inner _ (List.getElem?_eq_getElem isInner)).1
  by_cases isOld : number < heap.length
  · rw [List.getElem?_append_left isOld] at found
    obtain ⟨low, holds⟩ := ranked number other found
    rw [if_pos isOld]
    refine ⟨Nat.lt_succ_of_lt low, fun inner isHeld => ?_⟩
    obtain ⟨isInner, lowerInner⟩ := holds inner isHeld
    rw [if_pos isInner]
    exact ⟨Nat.lt_succ_of_lt isInner, lowerInner⟩
  · obtain ⟨isNumber, isCell⟩ := List.getElem?_eq_some_iff.mp found
    rw [List.length_append, List.length_singleton] at isNumber
    obtain rfl : number = heap.length := by omega
    rw [List.getElem_concat_length rfl] at isCell
    subst isCell
    rw [if_neg isOld]
    refine ⟨Nat.lt_succ_self _, fun inner isHeld => ?_⟩
    have isInner : inner < heap.length := below _ isHeld
    rw [if_pos isInner]
    exact ⟨Nat.lt_succ_of_lt isInner, lower inner isInner⟩

/-- What is there shows the same when there are more objects. -/
theorem value_of_isPrefix
    (closed : heap.Closed)
    (closedLater : later.Closed)
    (extended : heap <+: later)
    (below : slot.Below heap.length) :
    later.value slot = heap.value slot := by
  refine
    closed.induction (motive := fun slot => later.value slot = heap.value slot)
      (fun value => ?_) (fun number cell found inner => ?_) below
  · rw [value_plain, value_plain]
  · obtain ⟨isNumber, isCell⟩ := List.getElem?_eq_some_iff.mp found
    have foundLater : later[number]? = some cell :=
      isCell ▸ List.prefix_iff_getElem?.mp extended number isNumber
    rw [closed.value_shared found, closedLater.value_shared foundLater, Cell.value_eq_iff]
    exact inner

/-- So does a table that is there. -/
theorem table_of_isPrefix
    (closed : heap.Closed)
    (closedLater : later.Closed)
    (extended : heap <+: later)
    (isTable : heap.IsTable number) :
    later.table number = heap.table number := by
  refine Value.table.inj ?_
  rw [← isTable.value_eq closed, ← (isTable.of_isPrefix extended).value_eq closedLater]
  exact closed.value_of_isPrefix closedLater extended isTable.below

end Closed

/-- The last table on a path of keys is a table. -/
theorem IsTable.descend
    (isTable : heap.IsTable number)
    (key : String)
    (others : List String) :
    heap.IsTable (heap.descend number key others).1 := by
  induction others generalizing number key with
  | nil =>
      exact isTable
  | cons next others inductionHypothesis =>
      rw [Heap.descend]
      split
      · next inner found =>
        obtain ⟨slot, _, isInner⟩ := Option.bind_eq_some_iff.mp found
        exact inductionHypothesis (tableIn?_eq_some_iff.mp isInner).2 next
      · exact isTable

end Heap

/-- A value with tables around it, one for each key. -/
def Value.within (value : Value) (keys : List String) : Value :=
  keys.foldr (fun key inner => .table [(key, inner)]) value

section Nesting

/-- A value with new tables around it is plain, or the first one of these. -/
theorem number_nest
    {value : PlainValue}
    {others : List String}
    {inner : Nat}
    (isShared : (nest value number others).1 = .shared inner) :
    inner = number ∧ 0 < (nest value number others).2.length := by
  cases others with
  | nil =>
      cases isShared
  | cons key others =>
      cases isShared
      exact ⟨rfl, Nat.succ_pos _⟩

/-- So it is among the new tables if it is not plain. -/
theorem nest_below
    (value : PlainValue)
    (number : Nat)
    (others : List String) :
    (nest value number others).1.Below (number + (nest value number others).2.length) := by
  cases isNested : (nest value number others).1 with
  | plain value =>
      trivial
  | shared inner =>
      obtain ⟨rfl, someAdded⟩ := number_nest isNested
      exact Nat.lt_add_of_pos_right someAdded

/-- Each of the new tables holds nothing but the next one. -/
theorem number_of_mem_nest
    {value : PlainValue}
    {others : List String}
    {index inner : Nat}
    {cell : Cell}
    (found : (nest value number others).2[index]? = some cell)
    (isHeld : .shared inner ∈ cell.slots) :
    inner = number + (index + 1) ∧ index + 1 < (nest value number others).2.length := by
  induction others generalizing number index with
  | nil =>
      cases found
  | cons key others inductionHypothesis =>
      rw [nest] at found
      rw [nest, List.length_cons]
      cases index with
      | zero =>
          rw [List.getElem?_cons_zero, Option.some_inj] at found
          subst found
          obtain ⟨isNext, someLeft⟩ := number_nest (List.mem_singleton.mp isHeld).symm
          exact ⟨isNext, Nat.succ_lt_succ someLeft⟩
      | succ index =>
          rw [List.getElem?_cons_succ] at found
          obtain ⟨isNext, someLeft⟩ := inductionHypothesis found
          exact ⟨by omega, Nat.succ_lt_succ someLeft⟩

/--
Objects stay closed when new tables around a value are added, even if the value is put in some of
the old ones.
-/
theorem Heap.Closed.append_nest
    (closed : heap.Closed)
    {value : PlainValue}
    {others : List String}
    {front : Heap}
    (sameLength : front.length = heap.length)
    (changed : ∀ (number : Nat) (cell : Cell), front[number]? = some cell →
      ∃ old : Cell, heap[number]? = some old ∧
        ∀ slot ∈ cell.slots, slot ∈ old.slots ∨ slot = (nest value heap.length others).1) :
    Heap.Closed (front ++ (nest value heap.length others).2) := by
  obtain ⟨rank, ranked⟩ := closed
  generalize isAdded : (nest value heap.length others).2.length = added
  -- The new tables are below all others, each of them above the next.
  refine
    ⟨fun number =>
      if number < heap.length then rank number + added else heap.length + added - 1 - number, ?_⟩
  intro number cell found
  dsimp only
  rw [List.length_append, sameLength, isAdded]
  by_cases isOld : number < heap.length
  · rw [List.getElem?_append_left (sameLength ▸ isOld)] at found
    obtain ⟨old, isOldCell, slots⟩ := changed number cell found
    obtain ⟨low, lower⟩ := ranked number old isOldCell
    rw [if_pos isOld]
    refine ⟨Nat.add_lt_add_right low added, fun inner isHeld => ?_⟩
    rcases slots _ isHeld with wasHeld | isNested
    · obtain ⟨isInner, lowerInner⟩ := lower inner wasHeld
      rw [if_pos isInner]
      exact ⟨Nat.lt_add_right added isInner, Nat.add_lt_add_right lowerInner added⟩
    · obtain ⟨rfl, someAdded⟩ := number_nest isNested.symm
      rw [isAdded] at someAdded
      rw [if_neg (Nat.lt_irrefl _)]
      omega
  · rw [List.getElem?_append_right (sameLength ▸ Nat.le_of_not_lt isOld), sameLength] at found
    have isIndex := (List.getElem?_eq_some_iff.mp found).1
    rw [if_neg isOld]
    refine ⟨by omega, fun inner isHeld => ?_⟩
    obtain ⟨rfl, someLeft⟩ := number_of_mem_nest found isHeld
    rw [if_neg (by omega)]
    omega

/-- A value with new tables around it shows as such. -/
theorem value_nest
    {front : Heap}
    {value : PlainValue}
    {others : List String}
    (isLater : later = front ++ (nest value front.length others).2)
    (closed : later.Closed) :
    later.value (nest value front.length others).1 = value.value.within others := by
  induction others generalizing front with
  | nil =>
      rw [nest, Heap.value_plain]
      rfl
  | cons key others inductionHypothesis =>
      rw [nest] at isLater ⊢
      have found :
          later[front.length]? =
            some (.table [(key, (nest value (front.length + 1) others).1)]) := by
        rw [isLater, List.getElem?_append_right (Nat.le_refl _), Nat.sub_self,
          List.getElem?_cons_zero]
      have inner :=
        @inductionHypothesis (front ++ [.table [(key, (nest value (front.length + 1) others).1)]])
      rw [List.length_append, List.length_singleton, List.append_assoc,
        List.singleton_append] at inner
      rw [closed.value_shared found, Cell.value, List.map_singleton, inner isLater]
      rfl

end Nesting

namespace Write

variable {write : Write}

/-- Whether a table has just what is written under the key of a write. -/
def IsThere (write : Write) (heap : Heap) : Prop :=
  (heap.table write.number).get? write.key = some (write.value.value.within write.others)

/-- A write adds new tables to the objects. -/
theorem length_on (write : Write) (heap : Heap) :
    (write.on heap).length =
      heap.length + (nest write.value heap.length write.others).2.length := by
  rw [on, List.length_append, List.length_modify]

/-- A write puts something into its table and leaves every other object as it is. -/
theorem getElem?_on
    (write : Write)
    (isNumber : number < heap.length) :
    (write.on heap)[number]? =
      if write.number = number then
        heap[number]?.map (Cell.put write.key (nest write.value heap.length write.others).1)
      else
        heap[number]? := by
  rw [on, List.getElem?_append_left (by rwa [List.length_modify]), List.getElem?_modify]
  split
  · rfl
  · simp

/-- A table stays one after a write. -/
theorem isTable_on
    (write : Write)
    (isTable : heap.IsTable number) :
    (write.on heap).IsTable number := by
  obtain ⟨entries, found⟩ := id isTable
  rw [Heap.IsTable, write.getElem?_on isTable.lt_length, found]
  split
  · exact ⟨_, rfl⟩
  · exact ⟨_, rfl⟩

/-- Objects stay closed after a write. -/
theorem closed_on
    (write : Write)
    (closed : heap.Closed) :
    (write.on heap).Closed := by
  refine closed.append_nest (List.length_modify _ _ _) fun number cell found => ?_
  rw [List.getElem?_modify, Option.map_eq_map, Option.map_eq_some_iff] at found
  obtain ⟨old, isOld, rfl⟩ := found
  refine ⟨old, isOld, fun slot isHeld => ?_⟩
  split at isHeld
  · cases old with
    | table entries =>
        obtain ⟨entry, isEntry, rfl⟩ := List.mem_map.mp isHeld
        rcases mem_putSlot isEntry with rfl | wasEntry
        · exact .inr rfl
        · exact .inl (List.mem_map_of_mem wasEntry)
    | list items =>
        exact .inl isHeld
  · exact .inl isHeld

/-- What is written shows as such. -/
theorem value_on_nest
    (write : Write)
    (closed : heap.Closed) :
    (write.on heap).value (nest write.value heap.length write.others).1 =
      write.value.value.within write.others := by
  have front :
      (heap.modify write.number
          (Cell.put write.key (nest write.value heap.length write.others).1)).length =
        heap.length :=
    List.length_modify _ _ _
  rw [← front]
  refine value_nest ?_ (write.closed_on closed)
  rw [front]
  rfl

/-- After a write, its table has what is written under the key of the write. -/
theorem table_on
    (closed : heap.Closed)
    (isTable : heap.IsTable write.number) :
    (write.on heap).table write.number =
      Table.insert write.key (write.value.value.within write.others)
        ((heap.entries write.number).map fun entry =>
          (entry.1, (write.on heap).value entry.2)) := by
  obtain ⟨entries, found⟩ := id isTable
  have foundLater := write.getElem?_on isTable.lt_length
  rw [if_pos rfl, found, Option.map_some, Cell.put] at foundLater
  rw [← write.value_on_nest closed, ← map_putSlot, Heap.table, Heap.entries, Heap.entries,
    foundLater, found]

/--
A write shows in nothing that does not reach its table, and nowhere at all if the table has just the
same before.
-/
theorem value_on
    (closed : heap.Closed)
    (isTable : heap.IsTable write.number)
    (below : slot.Below heap.length)
    (spared : heap.Reaches write.number slot → write.IsThere heap) :
    (write.on heap).value slot = heap.value slot := by
  have closedLater := write.closed_on closed
  revert spared
  refine
    closed.induction
      (motive := fun slot =>
        (heap.Reaches write.number slot → write.IsThere heap) →
          (write.on heap).value slot = heap.value slot)
      (fun value _ => ?_) (fun number cell found inner spared => ?_) below
  · rw [Heap.value_plain, Heap.value_plain]
  · by_cases isWritten : write.number = number
    · -- The table is reached, so what is written is there already.
      subst isWritten
      have isThere := spared .here
      rw [isTable.value_eq closed, (write.isTable_on isTable).value_eq closedLater,
        table_on closed isTable]
      have kept :
          ((heap.entries write.number).map fun entry =>
              (entry.1, (write.on heap).value entry.2)) =
            heap.table write.number := by
        obtain ⟨entries, isCell⟩ := isTable
        cases found.symm.trans isCell
        rw [Heap.table, Heap.entries, isCell]
        refine List.map_congr_left fun entry member => ?_
        rw [inner entry.2 (List.mem_map_of_mem member) fun _ => isThere]
      rw [kept, Table.insert_eq_self_iff.mpr isThere]
    · have foundLater := write.getElem?_on (List.getElem?_eq_some_iff.mp found).1
      rw [if_neg isWritten, found] at foundLater
      rw [closed.value_shared found, closedLater.value_shared foundLater, Cell.value_eq_iff]
      exact fun slot isHeld =>
        inner slot isHeld fun reaches => spared (.through found isHeld reaches)

/-- A write shows in everything that reaches its table, unless this has just the same before. -/
theorem value_on_ne
    (closed : heap.Closed)
    (isTable : heap.IsTable write.number)
    (notThere : ¬ write.IsThere heap)
    (reaches : heap.Reaches write.number slot) :
    (write.on heap).value slot ≠ heap.value slot := by
  have closedLater := write.closed_on closed
  have showsHere :
      (write.on heap).value (.shared write.number) ≠ heap.value (.shared write.number) := by
    rw [isTable.value_eq closed, (write.isTable_on isTable).value_eq closedLater,
      table_on closed isTable]
    intro same
    refine notThere ?_
    rw [IsThere, ← Value.table.inj same, Table.get?, Table.isPut_insert.lookup_eq_ite, if_pos rfl]
  induction reaches with
  | here =>
      exact showsHere
  | @through number cell slot found isHeld _ inductionHypothesis =>
      by_cases isWritten : write.number = number
      · exact isWritten ▸ showsHere
      · have foundLater := write.getElem?_on (List.getElem?_eq_some_iff.mp found).1
        rw [if_neg isWritten, found] at foundLater
        rw [closed.value_shared found, closedLater.value_shared foundLater, ne_eq,
          Cell.value_eq_iff]
        exact fun same => inductionHypothesis (same slot isHeld)

end Write

end BlockSync
