import BlockSync.Value.Basic
import BlockSync.Text.Lines

namespace BlockSync

/-!
# Tables and dotted keys

A key with dots names a value in nested tables, one key for each part. Storing under such a key
creates the tables that are missing on the way and replaces what is no table.
-/

namespace Table

/-- The value under a key. -/
def get? (table : Table) (key : String) : Option Value :=
  table.lookup key

/-- Stores a value: in place of the old one, or as the last entry. -/
def insert (key : String) (value : Value) : Table → Table
  | [] => [(key, value)]
  | (other, old) :: rest =>
      if other = key then (key, value) :: rest else (other, old) :: insert key value rest

/-- Stores all entries of another table, later ones winning. -/
def update (table others : Table) : Table :=
  others.foldl (fun table (key, value) => table.insert key value) table

/-- The parts of a dotted key; there is at least one, and parts may be empty. -/
def keyParts (key : String) : List String :=
  (Text.splitOn '.' key.toList).map String.ofList

/-- The value at the end of a path of keys; a value that stands for nothing is no value. -/
def follow? : Table → List String → Option Value
  | table, [] => some (.table table)
  | table, [key] =>
      match table.get? key with
      | none => none
      | some value => if value.isNull then none else some value
  | table, key :: others =>
      match table.get? key with
      | some (.table inner) => follow? inner others
      | _ => none

/-- The value under a dotted key. -/
def lookup? (table : Table) (key : String) : Option Value :=
  table.follow? (keyParts key)

/-- Stores a value at the end of a path of keys. -/
def insertAt (value : Value) : List String → Table → Table
  | [], table => table
  | [key], table => table.insert key value
  | key :: others, table =>
      let inner := match table.get? key with
        | some (.table inner) => inner
        | _ => []
      table.insert key (.table (insertAt value others inner))

/-- Stores a value under a dotted key. -/
def set (table : Table) (key : String) (value : Value) : Table :=
  table.insertAt value (keyParts key)

end Table

/-- The value under a dotted key of a value, which has none unless it is a table. -/
def Value.lookup? (value : Value) (key : String) : Option Value :=
  match value with
  | .table entries => Table.lookup? entries key
  | _ => none

end BlockSync
