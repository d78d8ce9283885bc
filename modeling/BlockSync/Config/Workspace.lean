import BlockSync.Config.Basic
import BlockSync.Config.Heap

namespace BlockSync

/-!
# Drafts and snapshots

A draft collects settings and can be frozen into a snapshot, which can be thawed into a draft
again. A draft has the top level of its values for itself. All other tables are shared: what is
merged into a draft stays one and the same object as in the data that it came from, and copying
copies the top level alone. So a value that is set through a draft inside of a table is seen by
every snapshot that holds the table.
-/

/-- An entry with a table of its own for the top level of its values. -/
structure SharedEntry where
  files : List String
  fragment : EntryFragment
  values : Nat

/-- The settings of a draft. -/
abbrev Draft := Settings SharedEntry (List (String × Slot))

/-- The settings of a snapshot, with a table of its own for the top level of the shared values. -/
abbrev Snapshot := Settings SharedEntry Nat

/-- An entry with the values that its table stands for. -/
def SharedEntry.entry (heap : Heap) (shared : SharedEntry) : Entry :=
  ⟨shared.files, shared.fragment, heap.table shared.values⟩

/-- A draft as a configuration. -/
def Draft.config (heap : Heap) (draft : Draft) : Config :=
  { draft with
    entries := draft.entries.map (SharedEntry.entry heap)
    values := draft.values.map fun entry => (entry.1, heap.value entry.2) }

/-- A snapshot as a configuration. -/
def Snapshot.config (heap : Heap) (snapshot : Snapshot) : Config :=
  { snapshot with
    entries := snapshot.entries.map (SharedEntry.entry heap)
    values := heap.table snapshot.values }

/-- Entries with their own tables of values, copied from the objects they are read from. -/
def Heap.share (heap : Heap) : List Entry → List Slot → Heap × List SharedEntry
  | entry :: entries, slot :: slots =>
      let values := Cell.table (heap.entriesUnder slot "values")
      let (later, others) := Heap.share (heap ++ [values]) entries slots
      (later, ⟨entry.files, entry.fragment, heap.length⟩ :: others)
  | _, _ => (heap, [])

/-- The objects, the draft, and the last snapshot. -/
structure Workspace where
  heap : Heap
  draft : Draft
  snapshot : Option Snapshot

namespace Workspace

/-- The workspace before any source is read. -/
def initial (root : FilePath) : Workspace := ⟨[], .initial root, none⟩

/-- Adds a source, which is a table among the objects, to the draft, up to its first fault. -/
def merge
    (workspace : Workspace)
    (data : Nat)
    (source : Option FilePath) :
    Workspace × Option LoadError :=
  let heap := workspace.heap
  let (layer, error) := Layer.read (heap.table data) source
  -- Of the values and entries in the source, a layer has those up to the first fault.
  let values := (heap.entriesUnder (.shared data) "values").take layer.values.length
  let (later, entries) := heap.share layer.entries (heap.itemsUnder (.shared data) "fragments")
  ({ workspace with
      heap := later
      draft := workspace.draft.extend entries (putSlots values workspace.draft.values) layer.exclude
        (if error.isNone then source else none) },
    error)

/-- The write into a shared table by which a value is set under a dotted key, if it is one. -/
def write? (workspace : Workspace) (key : String) (value : PlainValue) : Option Write :=
  match Table.keyParts key with
  | first :: next :: others =>
      match (workspace.draft.values.lookup first).bind workspace.heap.tableIn? with
      | some number =>
          let (number, key, others) := workspace.heap.descend number next others
          some ⟨number, key, others, value⟩
      | none => none
  | _ => none

/-- Sets a value of the draft under a dotted key. -/
def set (workspace : Workspace) (key : String) (value : PlainValue) : Workspace :=
  match workspace.write? key value, Table.keyParts key with
  | some write, _ => { workspace with heap := write.on workspace.heap }
  | none, [] => workspace
  | none, first :: others =>
      let (slot, cells) := nest value workspace.heap.length others
      { workspace with
        heap := workspace.heap ++ cells
        draft := { workspace.draft with values := putSlot first slot workspace.draft.values } }

/-- Makes the draft the snapshot. -/
def freeze (workspace : Workspace) : Workspace :=
  { workspace with
    heap := workspace.heap ++ [.table workspace.draft.values]
    snapshot := some { workspace.draft.frozen with values := workspace.heap.length } }

/-- Makes the snapshot the draft, if there is one. -/
def thaw? (workspace : Workspace) : Option Workspace :=
  workspace.snapshot.map fun snapshot =>
    { workspace with draft := { snapshot with values := workspace.heap.entries snapshot.values } }

end Workspace

end BlockSync
