import BlockSync.Text.Blank
import BlockSync.Text.Lines

namespace BlockSync.Glob

/-!
# File patterns as regular expressions

A file pattern is read as an ignore file reads a line: blank lines and comments mean nothing, an
exclamation mark turns the pattern around, a slash ties it to the root, stars and question marks
stay within a name, and two stars stand for any number of directories. Each pattern becomes a
regular expression that is sought in the path of a file relative to the root. A pattern with a set
that is never closed means nothing, and one that ends in the middle of an escape is refused; of
these two flaws the first in the pattern counts.
-/

/-- What a line of file patterns asks for. -/
inductive Line where
  | nothing
  | rule (negated : Bool) (expression : String)
  deriving Repr, DecidableEq

/-- What keeps a pattern from being a regular expression. -/
inductive Flaw where
  | openSet
  | openEscape
  | noPath
  deriving Repr, DecidableEq

/-- The characters that a regular expression does not take literally. -/
def isSpecial (c : Char) : Bool :=
  "()[]\x7b\x7d?*+-|^$\\.&~# \t\n\r\x0b\x0c".toList.contains c

/-- A character that a regular expression takes literally. -/
def escaped (c : Char) : List Char := if isSpecial c then ['\\', c] else [c]

/--
The set that starts a text after its opening bracket, as a regular expression, and the rest of
the text. A closing bracket that comes first belongs to the set.
-/
def takeSet? (text : List Char) : Option (List Char × List Char) :=
  let (negation, members) :=
    match text with
    | '!' :: rest => (['^'], rest)
    | '^' :: rest => (['^'], rest)
    | _ => ([], text)
  let (first, others) :=
    match members with
    | ']' :: rest => ([']'], rest)
    | _ => ([], members)
  match others.dropWhile (· ≠ ']') with
  | [] => none
  | _ :: rest =>
      let inner := first ++ others.takeWhile (· ≠ ']')
      let inner := inner.flatMap fun c => if c = '\\' then ['\\', '\\'] else [c]
      some ('[' :: negation ++ inner ++ [']'], rest)

/--
The regular expression of a name with stars, question marks and sets. Fuel of the length of the
name is enough.
-/
def nameExpression : Nat → List Char → Except Flaw (List Char)
  | _, [] => .ok []
  | 0, _ :: _ => .error .openEscape
  | _ + 1, ['\\'] => .error .openEscape
  | fuel + 1, '\\' :: c :: rest => (nameExpression fuel rest).map (escaped c ++ ·)
  | fuel + 1, '*' :: rest => (nameExpression fuel rest).map ("[^/]*".toList ++ ·)
  | fuel + 1, '?' :: rest => (nameExpression fuel rest).map ("[^/]".toList ++ ·)
  | fuel + 1, '[' :: rest =>
      match takeSet? rest with
      | some (set, rest) => (nameExpression fuel rest).map (set ++ ·)
      | none => .error .openSet
  | fuel + 1, c :: rest => (nameExpression fuel rest).map (escaped c ++ ·)

/-- The segment that stands for any number of directories. -/
def anyDepth : List Char := ['*', '*']

/-- Drops every segment for any depth that follows another one. -/
def collapse : List (List Char) → List (List Char)
  | [] => []
  | segment :: rest =>
      match collapse rest with
      | [] => [segment]
      | next :: others =>
          if segment = anyDepth ∧ next = anyDepth then segment :: others
          else segment :: next :: others

/-- The segments of a pattern, tied to the root or preceded by any depth. -/
def anchorSegments (segments : List (List Char)) : List (List Char) :=
  match segments with
  | [] :: rest => rest
  | [single] => if single = anyDepth then segments else anyDepth :: segments
  | [single, []] => if single = anyDepth then segments else anyDepth :: segments
  | _ => segments

/-- A pattern that ends in a slash matches what lies below a directory. -/
def openEnd (segments : List (List Char)) : List (List Char) :=
  if segments.getLast? = some [] then segments.dropLast ++ [anyDepth] else segments

/-- The expressions of segments after the first `index` ones. -/
def expressionFrom : Nat → Bool → List (List Char) → Except Flaw (List Char)
  | _, _, [] => .ok []
  | index, needSlash, segment :: rest =>
      if segment = anyDepth then
        if index = 0 then (expressionFrom 1 false rest).map ("^(?:.+/)?".toList ++ ·)
        else if rest.isEmpty then .ok ['/']
        else (expressionFrom (index + 1) true rest).map ("(?:/.+)?".toList ++ ·)
      else do
        let start := if index = 0 then ['^'] else []
        let slash := if needSlash then ['/'] else []
        let name ←
          if segment = ['*'] then .ok "[^/]+".toList
          else nameExpression segment.length segment
        let stop := if rest.isEmpty then "(?:/|$)".toList else []
        let others ← expressionFrom (index + 1) true rest
        return start ++ slash ++ name ++ stop ++ others

/-- The regular expression of the segments of a pattern. -/
def segmentsExpression (segments : List (List Char)) : Except Flaw (List Char) :=
  let isDirectoryPattern := segments.getLast? = some []
  let anchored := anchorSegments segments
  if anchored.isEmpty then
    .error .noPath
  else
    let normal := collapse (openEnd anchored)
    if normal = [anyDepth] then
      .ok (if isDirectoryPattern then ['/'] else ['.'])
    else if normal = [anyDepth, ['*']] then .ok ['.']
    else if normal = [anyDepth, ['*'], anyDepth] then .ok ['/']
    else expressionFrom 0 false normal

/-- A pattern without the blank characters at its end, unless the last of them is escaped. -/
def trimmed (pattern : List Char) : List Char :=
  if ['\\', ' '].isSuffixOf pattern then pattern else Text.trimEndWhile Text.isBlank pattern

/-- The rule that a pattern is, possibly turned around; none if the pattern is refused. -/
def Line.rule? (negated : Bool) (pattern : List Char) : Option Line :=
  match segmentsExpression (Text.splitOn '/' pattern) with
  | .ok expression => some (.rule negated (String.ofList expression))
  | .error .openSet => some .nothing
  | .error .openEscape | .error .noPath => none

/-- What a pattern asks for; none if it is refused. -/
def Line.parse? (pattern : String) : Option Line :=
  match trimmed pattern.toList with
  | [] => some .nothing
  | '#' :: _ => some .nothing
  | ['/'] => some .nothing
  | '!' :: rest => rule? true rest
  | text => rule? false text

end BlockSync.Glob
