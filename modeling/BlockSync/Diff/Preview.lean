import BlockSync.Calendar
import BlockSync.Style.Ansi
import BlockSync.Text.Blank
import BlockSync.Text.LineBreak

namespace BlockSync.Diff

/-!
# Previews of diffs

A diff is shown line by line in colours that follow its marks, with carriage returns made visible.
-/

/-- The styles of a line: heads of files are bold, other lines go by their first character. -/
def lineStyles (line : List Char) : List Style.Effect :=
  if "+++".toList.isPrefixOf line || "---".toList.isPrefixOf line then [Style.bold]
  else
    match line with
    | '-' :: _ => [Style.red]
    | '+' :: _ => [Style.green]
    | '@' :: _ => [Style.cyan]
    | _ => []

/-- A line with carriage returns shown as a backslash and a letter. -/
def showReturns (line : List Char) : List Char :=
  line.flatMap fun c => if c = '\r' then ['\\', 'r'] else [c]

/-- A line of a diff in its colours. -/
def previewLine (colored : Bool) (line : List Char) : List Char :=
  match lineStyles line with
  | [] => showReturns line
  | styles => Style.paint colored styles (showReturns line)

/-- The lines of a diff as they are shown, each with its number if that is asked for. -/
def preview (colored numbered : Bool) (patch : List (List Char)) : String :=
  let lines := patch.map (Text.trimEndWhile (· = '\n'))
  let shown := lines.zipIdx.flatMap fun (line, index) =>
    let number :=
      if numbered then
        Style.paint colored [Style.gray] (paddedNumber 4 (index + 1) ++ "|").toList
      else
        []
    number ++ previewLine colored line ++ ['\n']
  String.ofList shown

/-- A diff as it is shown. -/
def previewText (colored numbered : Bool) (patch : String) : String :=
  preview colored numbered (Text.breakLines patch.toList)

end BlockSync.Diff
