import BlockSync.Text.Lines

namespace BlockSync.Text.CharacterName

/-!
# Blocks of names

Characters that follow one another often have names that start with the same words. A block keeps
these words once, with what each name adds to them.
-/

/--
The names of characters that follow one another. What they add to the shared words stands in rows,
with semicolons between.
-/
structure Block where
  first : Nat
  shared : String
  rows : List String

namespace Block

/-- What the names of a block add to the words that they share. -/
def additions (block : Block) : List (List Char) :=
  block.rows.flatMap fun row => splitOn ';' row.toList

/-- The code point of the character of a block that has a name. -/
def codeOf? (block : Block) (name : List Char) : Option Nat :=
  if block.shared.toList.isPrefixOf name then
    (block.additions.idxOf? (name.drop block.shared.length)).map (block.first + ·)
  else
    none

end Block

end BlockSync.Text.CharacterName
