import BlockSync.Config.Error
import BlockSync.Text.Blank
import BlockSync.Value.Basic

namespace BlockSync

/-!
# Value overrides

An override is a key and a value around the first equals sign. Blank characters around the key are
dropped, those around the value are kept. A key that is given again keeps its place and takes the
later value.
-/

/-- Overrides by key, in the order in which the keys were first given. -/
abbrev Overrides := List (String × String)

namespace Overrides

/-- Puts a value under a key: in place of the old one, or as the last. -/
def put (key value : String) : Overrides → Overrides
  | [] => [(key, value)]
  | (other, old) :: rest =>
      if other = key then (key, value) :: rest else (other, old) :: put key value rest

/-- The key and the value of an override. -/
def parseItem (item : String) : Except ConfigError (String × String) :=
  let chars := item.toList
  let key := Text.trim (chars.takeWhile (· ≠ '='))
  match chars.dropWhile (· ≠ '=') with
  | _ :: value =>
      if key.isEmpty then .error ⟨.invalidOverride item, none⟩
      else .ok (String.ofList key, String.ofList value)
  | [] => .error ⟨.invalidOverride item, none⟩

/-- The overrides that a list of items gives. -/
def parse (items : List String) : Except ConfigError Overrides :=
  items.foldlM
    (fun overrides item => do
      let (key, value) ← parseItem item
      return overrides.put key value)
    []

/-- The values of overrides by dotted key. -/
def table (overrides : Overrides) : Table :=
  overrides.map fun (key, value) => (key, .string value)

end Overrides

end BlockSync
