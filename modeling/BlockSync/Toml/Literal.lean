import BlockSync.Toml.Key
import BlockSync.Toml.Moment
import BlockSync.Toml.Number
import BlockSync.Toml.Parts

namespace BlockSync.Toml

/-!
# Values

A value is a quoted text, a truth value, a number, a date or time, an array, or a table in braces.
Arrays and tables in braces can span lines, hold comments, and end in a comma.
-/

/-- Ends a word that is a value. -/
def endsWord (c : Char) : Bool := isSpace c || c = '#' || c = ',' || c = ']' || c = '\x7d'

/-- The rest of a comment, up to the end of its line. -/
def comment (text : List Char) : Except Failure (List Char) :=
  let body := text.takeWhile fun c => c ≠ '\n' && c ≠ '\r'
  if body.any isControl then refuse .controlCharacter else .ok (text.drop body.length)

/-- Skips spaces, line ends and comments. Fuel of the length is enough. -/
def skipSpace : Nat → List Char → Except Failure (List Char)
  | 0, text => .ok text
  | fuel + 1, text =>
      match text.dropWhile isSpace with
      | '#' :: rest => do skipSpace fuel (← comment rest)
      | rest => .ok rest

/-- Skips spaces, line ends and comments. -/
def skip (text : List Char) : Except Failure (List Char) := skipSpace (text.length + 1) text

/-- A word, if it comes next. -/
def word? (word text : List Char) : Option (List Char) :=
  if word.isPrefixOf text then some (text.drop word.length) else none

/-- A number that makes up a word. -/
def numberWord (word rest : List Char) : Except Failure (Value × List Char) :=
  match number? word with
  | some value => .ok (value, rest)
  | none => refuse .invalidNumber

/-- A date on its own, or with a time that a space separates from it. -/
def dateOrMoment
    (word : List Char)
    (date : Value)
    (rest : List Char) :
    Except Failure (Value × List Char) := do
  let more := rest.takeWhile fun c => !endsWord c || c = ' '
  let time := Text.trimEndWhile Text.isBlank more
  if time.isEmpty then return (date, rest.drop more.length)
  return (← dateTime (word ++ time), rest.drop more.length)

/-- A value that begins with a digit. -/
def digitWord (word rest : List Char) : Except Failure (Value × List Char) := do
  match ← moment? word with
  | none => numberWord word rest
  | some (.date date) => dateOrMoment word (.date date) rest
  | some value => return (value, rest)

/-- A value that is neither an array nor a table in braces. -/
def plainValue (text : List Char) : Except Failure (Value × List Char) := do
  match text with
  | [] => refuse .unexpected
  | first :: rest =>
      let word := text.takeWhile fun c => !endsWord c
      let after := text.drop word.length
      if first = '"' || first = '\'' then
        let ((value, _), rest) ← quotedText first rest
        return (.string value, rest)
      else if first = 't' || first = 'f' then
        match word? "true".toList text, word? "false".toList text with
        | some rest, _ => return (.bool true, rest)
        | none, some rest => return (.bool false, rest)
        | none, none => refuse .unexpected
      else if first = '+' || first = '-' || numberWords.contains word then numberWord word after
      else if first.isDigit then digitWord word after
      else refuse .unexpected

/-- The equals sign after a key, with spaces around it. -/
def equalsSign (text : List Char) : Except Failure (List Char) :=
  let written := text.takeWhile fun c => isIndent c || c = '='
  let rest := text.drop written.length
  match written.count '=' with
  | 0 => refuse .unexpected
  | 1 => .ok rest
  | _ => refuse .unexpected

/-- Where a table in braces stands: at its start, after an entry, or after a comma. -/
inductive InlinePlace where
  | start
  | afterEntry
  | afterComma
  deriving Repr, DecidableEq

mutual

/--
A value, with a number of levels that tables and arrays may still be nested. Fuel of the length is
enough.
-/
def valueWithin : Nat → Nat → List Char → Except Failure (Value × List Char)
  | 0, _, _ => refuse .unexpected
  | fuel + 1, levels, text =>
      match text, levels with
      | '[' :: _, 0 => refuse .tooDeep
      | '\x7b' :: _, 0 => refuse .tooDeep
      | '[' :: rest, levels + 1 => do
          let (items, rest) ← itemsWithin fuel levels false rest
          return (.list items, rest)
      | '\x7b' :: rest, levels + 1 => do
          let (entries, rest) ← entriesWithin fuel levels .start [] rest
          let table ← (Section.toTable entries).mapError .clash
          return (.table table, rest)
      | _, _ => plainValue text

/--
The items of an array up to its bracket. The truth value tells whether an item has just been read,
so that a comma must come before the next one.
-/
def itemsWithin :
    Nat → Nat → Bool → List Char → Except Failure (List Value × List Char)
  | 0, _, _, _ => refuse .unexpected
  | fuel + 1, levels, afterItem, text => do
      match ← skip text, afterItem with
      | ']' :: rest, _ => return ([], rest)
      | ',' :: rest, true =>
          if rest.isEmpty then refuse .endOfText else itemsWithin fuel levels false rest
      | _, true => refuse .unexpected
      | text, false => do
          let (value, rest) ← valueWithin fuel levels text
          let (items, rest) ← itemsWithin fuel levels true rest
          return (value :: items, rest)

/-- The entries of a table in braces, added to those before them. -/
def entriesWithin :
    Nat → Nat → InlinePlace → Section → List Char → Except Failure (Section × List Char)
  | 0, _, _, _, _ => refuse .unexpected
  | fuel + 1, levels, place, entries, text => do
      match ← skip text, place with
      | '\x7d' :: rest, _ => return (entries, rest)
      | ',' :: rest, .afterEntry =>
          if rest.isEmpty then refuse .endOfText
          else entriesWithin fuel levels .afterComma entries rest
      | _, .afterEntry => refuse .unexpected
      | text, _ => do
          let (path, rest) ← key text
          let rest ← equalsSign rest
          let (value, rest) ← valueWithin fuel levels rest
          let entries ← (Section.addValue entries path value).mapError .clash
          entriesWithin fuel levels .afterEntry entries rest

end

/-- A value. -/
def value (text : List Char) : Except Failure (Value × List Char) :=
  valueWithin (text.length + 1) nestingLimit text

end BlockSync.Toml
