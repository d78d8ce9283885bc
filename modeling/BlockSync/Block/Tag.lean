import BlockSync.Text.Blank
import BlockSync.Text.Quoted

namespace BlockSync

/-!
# Tags

A tag names a block inside the comments that delimit it. It has at least one character and no
blank one, so it ends where the comment goes on.
-/

/-- A name that can stand in a marker. -/
def IsTagName (name : String) : Prop :=
  name.toList ≠ [] ∧ ∀ c ∈ name.toList, Text.isBlank c = false

instance (name : String) : Decidable (IsTagName name) :=
  -- Only the characters of the name are to be gone through, not all that there are.
  have := List.decidableBAll (fun c => Text.isBlank c = false) name.toList
  inferInstanceAs (Decidable (_ ∧ _))

/-- The name of a block. -/
structure Tag where
  name : String
  isTagName : IsTagName name
  deriving DecidableEq

/-- A name that no block can have. -/
structure InvalidTag where
  name : String
  deriving Repr, DecidableEq

/-- The message of a refused tag. -/
def InvalidTag.message (error : InvalidTag) : String :=
  "Invalid block tag: " ++ Text.quoted error.name ++ " (must be non-empty, without spaces)"

/-- The tag with a given name, unless the name is empty or holds a blank character. -/
def Tag.ofName (name : String) : Except InvalidTag Tag :=
  if valid : IsTagName name then .ok ⟨name, valid⟩ else .error ⟨name⟩

/-- The characters of a tag. -/
def Tag.chars (tag : Tag) : List Char := tag.name.toList

end BlockSync
