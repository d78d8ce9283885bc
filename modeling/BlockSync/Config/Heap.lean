import BlockSync.Value.Table

namespace BlockSync

/-!
# Shared tables and lists

Tables and lists are objects that can be held in several places: what is changed about one of them
shows in all of these places. Objects hold other objects, but none holds itself.
-/

mutual

/-- Whether a value neither is nor holds a table. -/
def Value.isPlain : Value → Bool
  | .list items => Value.arePlain items
  | .table _ => false
  | _ => true

/-- Whether no value of a list is or holds a table. -/
def Value.arePlain : List Value → Bool
  | [] => true
  | item :: others => item.isPlain && Value.arePlain others

end

/-- A value that neither is nor holds a table, so that nothing can be changed about it. -/
structure PlainValue where
  value : Value
  isPlain : value.isPlain = true

/-- A string is a plain value. -/
def PlainValue.ofString (text : String) : PlainValue := ⟨.string text, rfl⟩

/-- A stored value: a plain one, or an object that others may share, by its number. -/
inductive Slot where
  | plain (value : PlainValue)
  | shared (number : Nat)

/-- An object. -/
inductive Cell where
  | table (entries : List (String × Slot))
  | list (items : List Slot)

/-- Puts a slot under a key: in place of the old one, or as the last. -/
def putSlot (key : String) (slot : Slot) : List (String × Slot) → List (String × Slot)
  | [] => [(key, slot)]
  | (other, old) :: rest =>
      if other = key then (key, slot) :: rest else (other, old) :: putSlot key slot rest

/-- Puts slots under their keys, one after another. -/
def putSlots (added slots : List (String × Slot)) : List (String × Slot) :=
  added.foldl (fun slots (key, slot) => putSlot key slot slots) slots

namespace Cell

/-- The slots of an object. -/
def slots : Cell → List Slot
  | .table entries => entries.map (·.2)
  | .list items => items

/-- Puts a slot under a key of an object, which stays as it is if it is no table. -/
def put (key : String) (slot : Slot) : Cell → Cell
  | .table entries => .table (putSlot key slot entries)
  | cell => cell

/-- The value of an object, given those in its slots. -/
def value (view : Slot → Value) : Cell → Value
  | .table entries => .table (entries.map fun entry => (entry.1, view entry.2))
  | .list items => .list (items.map view)

end Cell

/-- All objects, each under its number. -/
abbrev Heap := List Cell

namespace Heap

/-- The entries of a table. -/
def entries (heap : Heap) (number : Nat) : List (String × Slot) :=
  match heap[number]? with
  | some (.table entries) => entries
  | _ => []

/-- The number of the table in a slot, if there is one. -/
def tableIn? (heap : Heap) : Slot → Option Nat
  | .plain _ => none
  | .shared number =>
      match heap[number]? with
      | some (.table _) => some number
      | _ => none

/-- The value in a slot, through as many objects one inside the other. -/
def valueTo (heap : Heap) : Nat → Slot → Value
  | _, .plain plain => plain.value
  | 0, .shared _ => .null
  | depth + 1, .shared number =>
      match heap[number]? with
      | some cell => cell.value (heap.valueTo depth)
      | none => .null

/-- The value in a slot. Objects are not nested deeper than there are objects. -/
def value (heap : Heap) (slot : Slot) : Value := heap.valueTo heap.length slot

/-- The table with a number. -/
def table (heap : Heap) (number : Nat) : Table :=
  (heap.entries number).map fun entry => (entry.1, heap.value entry.2)

/-- The entries of the table in a slot. -/
def entriesIn (heap : Heap) : Slot → List (String × Slot)
  | .plain _ => []
  | .shared number => heap.entries number

/-- The items of the list in a slot. -/
def itemsIn (heap : Heap) : Slot → List Slot
  | .plain _ => []
  | .shared number =>
      match heap[number]? with
      | some (.list items) => items
      | _ => []

/-- The entries of the table under a key of the table in a slot. -/
def entriesUnder (heap : Heap) (slot : Slot) (key : String) : List (String × Slot) :=
  match (heap.entriesIn slot).lookup key with
  | some inner => heap.entriesIn inner
  | none => []

/-- The items of the list under a key of the table in a slot. -/
def itemsUnder (heap : Heap) (slot : Slot) (key : String) : List Slot :=
  match (heap.entriesIn slot).lookup key with
  | some inner => heap.itemsIn inner
  | none => []

/--
The last table on a path of keys from a table on, with the key under which the path leaves it and
the keys after that.
-/
def descend (heap : Heap) : Nat → String → List String → Nat × String × List String
  | number, key, [] => (number, key, [])
  | number, key, next :: others =>
      match ((heap.entries number).lookup key).bind heap.tableIn? with
      | some inner => heap.descend inner next others
      | none => (number, key, next :: others)

end Heap

/-- A value with new tables around it, one for each key, that are numbered from a number on. -/
def nest (value : PlainValue) : Nat → List String → Slot × List Cell
  | _, [] => (.plain value, [])
  | number, key :: others =>
      let (inner, cells) := nest value (number + 1) others
      (.shared number, .table [(key, inner)] :: cells)

/-- A value that is stored in a table, under a key and inside new tables for the other keys. -/
structure Write where
  number : Nat
  key : String
  others : List String
  value : PlainValue

/-- The objects after a write. -/
def Write.on (write : Write) (heap : Heap) : Heap :=
  let (slot, cells) := nest write.value heap.length write.others
  heap.modify write.number (Cell.put write.key slot) ++ cells

end BlockSync
