import BlockSync.Cli.Command
import BlockSync.Text.Lines

namespace BlockSync.Cli

/-!
# Help

The help of a scope: its usage, its purpose, its options and commands in two columns, and closing
paragraphs. Lines are filled with as many words as fit.
-/

namespace Help

/-- The width of a page. -/
def pageWidth : Nat := 80

/-- The number of blanks in front of indented lines, and between columns. -/
def indentWidth : Nat := 2

/-- A number of blanks. -/
def blanks (count : Nat) : String := String.ofList (List.replicate count ' ')

/-- Fills lines with words, after what a line holds already. -/
def fillFrom (width : Nat) : String → List String → List String
  | line, [] => [line]
  | line, word :: others =>
      if line.length + 1 + word.length ≤ width then
        fillFrom width (line ++ " " ++ word) others
      else
        line :: fillFrom width word others

/-- The words of a text. -/
def words (text : String) : List String :=
  (Text.splitOn ' ' text.toList).map String.ofList

/-- Fills lines of some width with the words of a text. -/
def fill (width : Nat) (text : String) : List String :=
  match words text with
  | [] => []
  | word :: others => fillFrom width word others

/-- A paragraph of its own, indented. -/
def paragraph (text : String) : List String :=
  "" :: (fill (pageWidth - 2 * indentWidth) text).map (blanks indentWidth ++ ·)

/-- Rows in two columns; the second starts behind the longest item of the first. -/
def columns (rows : List (String × String)) : List String :=
  let first := (rows.map fun row => row.1.length).foldl max 0 + indentWidth
  rows.flatMap fun (item, text) =>
    match fill (pageWidth - first - indentWidth) text with
    | [] => [blanks indentWidth ++ item]
    | line :: others =>
        (blanks indentWidth ++ item ++ blanks (first - item.length) ++ line) ::
          others.map (blanks (indentWidth + first) ++ ·)

/-- Rows under a heading, if there are any. -/
def table (heading : String) (rows : List (String × String)) : List String :=
  if rows.isEmpty then [] else "" :: heading :: columns rows

/-- The lines of the help of a scope. -/
def lines (scope : Scope) : List String :=
  scope.usage :: paragraph scope.purpose ++
    table "Options:" (scope.switches.map fun switch => (switch.display, switch.explanation)) ++
    table "Commands:" (scope.commands.map fun command => (command.name, command.purpose)) ++
    scope.closing.flatMap paragraph

/-- The help of a scope. -/
def text (scope : Scope) : String := "\n".intercalate (lines scope)

end Help

end BlockSync.Cli
