import BlockSync.Text.CharacterName.Africa
import BlockSync.Text.CharacterName.Aliases
import BlockSync.Text.CharacterName.Alphabets
import BlockSync.Text.CharacterName.Antiquity
import BlockSync.Text.CharacterName.Arrows
import BlockSync.Text.CharacterName.Brahmic
import BlockSync.Text.CharacterName.Cuneiform
import BlockSync.Text.CharacterName.EastAsia
import BlockSync.Text.CharacterName.Forms
import BlockSync.Text.CharacterName.Hieroglyphs
import BlockSync.Text.CharacterName.Indic
import BlockSync.Text.CharacterName.Linear
import BlockSync.Text.CharacterName.Mathematics
import BlockSync.Text.CharacterName.MiddleEast
import BlockSync.Text.CharacterName.Notation
import BlockSync.Text.CharacterName.Phonetic
import BlockSync.Text.CharacterName.Pictographs
import BlockSync.Text.CharacterName.Punctuation
import BlockSync.Text.CharacterName.Selectors
import BlockSync.Text.CharacterName.Signs
import BlockSync.Text.CharacterName.SouthAsia
import BlockSync.Text.CharacterName.Steppe
import BlockSync.Text.CharacterName.Syllables
import BlockSync.Text.CharacterName.Technical
import BlockSync.Text.CharacterName.Yi

namespace BlockSync.Text

/-!
# Names of characters

The names of the Unicode character database, version 14. Most names come from tables. The syllables
of Hangul are named by their sounds, and ideographs, like some characters of three other scripts,
by their code points. Capitals and small letters of a name are not told apart, except in the names
of syllables and unified ideographs.
-/

/-- All tables of names. -/
def nameTables : List (List CharacterName.Block) :=
  open CharacterName in [
    alphabets, middleEast, indic, southAsia, syllables, steppe, phonetic, punctuation, technical,
    arrows, eastAsia, yi, forms, linear, antiquity, brahmic, cuneiform, hieroglyphs, africa,
    musicalNotation, mathematics, signs, pictographs, selectors, selectorAbbreviations]

/-- The code point of a name that a table gives. -/
def tabledCode? (name : List Char) : Option Nat :=
  (nameTables.findSome? fun blocks => blocks.findSome? fun block => block.codeOf? name).or
    ((CharacterName.aliases.find? fun (_, further) => further.toList == name).map (·.1))

/-- The ranges of the ideographs that are named by their code points. -/
def ideographRanges : List (Nat × Nat) := [
  (0x3400, 0x4DBF), (0x4E00, 0x9FFF), (0x20000, 0x2A6DF), (0x2A700, 0x2B738), (0x2B740, 0x2B81D),
  (0x2B820, 0x2CEA1), (0x2CEB0, 0x2EBE0), (0x30000, 0x3134A)]

/-- The value of a digit of a code point, which has no small letters. -/
def codeDigit? (c : Char) : Option Nat :=
  if c.isDigit then some (c.toNat - '0'.toNat)
  else if 'A' ≤ c && c ≤ 'F' then some (c.toNat - 'A'.toNat + 10)
  else none

/-- The ideograph that is named by its code point in four or five digits. -/
def ideographCode? (digits : List Char) : Option Nat := do
  let values ← digits.mapM codeDigit?
  let code := values.foldl (fun code digit => code * 16 + digit) 0
  if (digits.length = 4 ∨ digits.length = 5) ∧
      ideographRanges.any (fun (low, high) => low ≤ code && code ≤ high) then
    some code
  else
    none

/-- The names of the consonants that start a syllable. -/
def leadingSounds : List String := [
  "G", "GG", "N", "D", "DD", "R", "M", "B", "BB", "S", "SS", "", "J", "JJ", "C", "K", "T", "P", "H"]

/-- The names of the vowels of a syllable. -/
def vowelSounds : List String := [
  "A", "AE", "YA", "YAE", "EO", "E", "YEO", "YE", "O", "WA", "WAE", "OE", "YO", "U", "WEO", "WE",
  "WI", "YU", "EU", "YI", "I"]

/-- The names of the consonants that end a syllable. -/
def trailingSounds : List String := [
  "", "G", "GG", "GS", "N", "NJ", "NH", "D", "L", "LG", "LM", "LB", "LS", "LT", "LP", "LH", "M",
  "B", "BS", "S", "SS", "NG", "J", "C", "K", "T", "P", "H"]

/-- The longest sound that a text starts with: its place among the sounds, and the rest. -/
def takeSound? (sounds : List String) (text : List Char) : Option (Nat × List Char) :=
  let found := sounds.zipIdx.filter fun (sound, _) => sound.toList.isPrefixOf text
  (found.foldl
    (fun best (sound, place) =>
      match best with
      | none => some (sound, place)
      | some (other, _) => if other.length < sound.length then some (sound, place) else best)
    none).map fun (sound, place) => (place, text.drop sound.length)

/-- The syllable that is named by its sounds. -/
def syllableCode? (sounds : List Char) : Option Nat := do
  let (leading, rest) ← takeSound? leadingSounds sounds
  let (vowel, rest) ← takeSound? vowelSounds rest
  let (trailing, rest) ← takeSound? trailingSounds rest
  if rest.isEmpty then
    some (0xAC00 + (leading * vowelSounds.length + vowel) * trailingSounds.length + trailing)
  else
    none

/-- What a text goes on with after a given start. -/
def afterStart? (start : String) (text : List Char) : Option (List Char) :=
  if start.toList.isPrefixOf text then some (text.drop start.length) else none

/-- The characters that are named by a word and their code point, with the first and the last. -/
def codeNamed : List (String × Nat × Nat) := [
  ("CJK COMPATIBILITY IDEOGRAPH-", 0xF900, 0xFA6D),
  ("CJK COMPATIBILITY IDEOGRAPH-", 0xFA70, 0xFAD9),
  ("CJK COMPATIBILITY IDEOGRAPH-", 0x2F800, 0x2FA1D),
  ("KHITAN SMALL SCRIPT CHARACTER-", 0x18B00, 0x18CD5),
  ("NUSHU CHARACTER-", 0x1B170, 0x1B2FB)]

/-- The character that is named by its code point after a word. -/
def codeNamedCode? (name : List Char) : Option Nat :=
  codeNamed.findSome? fun (word, first, last) => do
    let values ← (← afterStart? word name).mapM codeDigit?
    let code := values.foldl (fun code digit => code * 16 + digit) 0
    if first ≤ code ∧ code ≤ last ∧ (values.length = 4 ∨ values.length = 5 ∧ 0xFFFF < code) then
      some code
    else
      none

/-- The code point of the character with a name. -/
def codeOfName? (name : List Char) : Option Nat :=
  match afterStart? "CJK UNIFIED IDEOGRAPH-" name, afterStart? "HANGUL SYLLABLE " name with
  | some digits, _ => ideographCode? digits
  | none, some sounds => syllableCode? sounds
  | none, none =>
      let capitals := name.map Char.toUpper
      (codeNamedCode? capitals).or (tabledCode? capitals)

end BlockSync.Text
