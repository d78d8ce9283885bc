import BlockSync.Text.LineBreak
import BlockSync.Text.Lines
import BlockSync.Text.Raw

namespace BlockSync

/-!
# Templates

A template is a text with placeholders: a dollar sign in front of a name, or of a name between
braces. Two dollar signs stand for one. Any other dollar sign is a fault, which is only reported
once a rendering gets to it.
-/

/-- A part of a template. A fault carries the offset just past its dollar sign. -/
inductive TemplatePiece where
  | char (c : Char)
  | placeholder (name : String)
  | fault (offset : Nat)
  deriving Repr, DecidableEq

/-- A text with placeholders. -/
structure Template where
  source : String
  pieces : List TemplatePiece
  deriving Repr, DecidableEq

/-- Why a template could not be rendered. -/
inductive TemplateError where
  | missing (name : String)
  | invalidPlaceholder (line column : Nat)
  deriving Repr, DecidableEq

namespace Template

/-- A character that starts a name: an ASCII letter or an underscore. -/
def startsName (c : Char) : Bool := c.isAlpha || c == '_'

/-- A character that continues a name: an ASCII letter or digit, or an underscore. -/
def continuesName (c : Char) : Bool := c.isAlphanum || c == '_'

/-- The name that starts a text, and the rest of the text. -/
def takeName? (text : List Char) : Option (List Char × List Char) :=
  match text with
  | [] => none
  | c :: rest =>
      if startsName c then
        some (c :: rest.takeWhile continuesName, rest.dropWhile continuesName)
      else
        none

/-- The placeholder after a dollar sign: its name, its length, and the rest of the text. -/
def takePlaceholder? (text : List Char) : Option (List Char × Nat × List Char) :=
  match text with
  | '\x7b' :: inner =>
      match takeName? inner with
      | some (name, '\x7d' :: rest) => some (name, name.length + 2, rest)
      | _ => none
  | _ => (takeName? text).map fun (name, rest) => (name, name.length, rest)

/-- The pieces of a text that starts at an offset; fuel of the length of the text is enough. -/
def piecesFrom : Nat → Nat → List Char → List TemplatePiece
  | 0, _, _ => []
  | _ + 1, _, [] => []
  | fuel + 1, offset, '$' :: '$' :: rest => .char '$' :: piecesFrom fuel (offset + 2) rest
  | fuel + 1, offset, '$' :: rest =>
      match takePlaceholder? rest with
      | some (name, length, rest) =>
          .placeholder (String.ofList name) :: piecesFrom fuel (offset + 1 + length) rest
      | none => .fault (offset + 1) :: piecesFrom fuel (offset + 1) rest
  | fuel + 1, offset, c :: rest => .char c :: piecesFrom fuel (offset + 1) rest

/-- The template with a given text. -/
def parse (source : String) : Template :=
  ⟨source, piecesFrom source.toList.length 0 source.toList⟩

/-- The template that renders to a text as it is. -/
def ofText (text : String) : Template :=
  ⟨text, text.toList.map .char⟩

/-- Whether every dollar sign belongs to a placeholder or is written twice. -/
def isValid (template : Template) : Bool :=
  template.pieces.all fun piece =>
    match piece with
    | .fault _ => false
    | _ => true

/-- The names of the placeholders, each once and in order. -/
def names (template : Template) : List String :=
  (template.pieces.filterMap fun piece =>
    match piece with
    | .placeholder name => some name
    | _ => none).eraseDups

/-- The line and the column of a fault, both counted from one. -/
def placeOf (template : Template) (offset : Nat) : Nat × Nat :=
  let before := Text.breakLines (template.source.toList.take offset)
  let earlier := before.dropLast.flatten.length
  (before.length, offset - earlier)

/-- Renders pieces with values; the first missing value or fault ends it. -/
def renderPieces
    (template : Template)
    (values : List (String × RawText)) :
    List TemplatePiece → Except TemplateError RawText
  | [] => .ok []
  | .char c :: rest => (template.renderPieces values rest).map (.char c :: ·)
  | .placeholder name :: rest =>
      match values.lookup name with
      | none => .error (.missing name)
      | some value => (template.renderPieces values rest).map (value ++ ·)
  | .fault offset :: _ =>
      let (line, column) := template.placeOf offset
      .error (.invalidPlaceholder line column)

/-- Renders a template with values. -/
def render
    (template : Template)
    (values : List (String × RawText)) :
    Except TemplateError RawText :=
  template.renderPieces values template.pieces

end Template

end BlockSync
