import BlockSync.Style.Plain

namespace BlockSync.Cli

/-!
# Transcripts and consoles

A transcript holds what a session writes to its two streams, in order. A console writes for users:
its output is coloured or plain, and plain output has no escape sequences at all.
-/

/-- The stream of results, or that of diagnostics. -/
inductive Stream where
  | results
  | diagnostics
  deriving Repr, DecidableEq

/-- A text written to a stream. -/
structure Piece where
  stream : Stream
  text : String
  deriving Repr, DecidableEq

/-- What is written, in order. -/
abbrev Transcript := List Piece

/-- What a transcript shows on one stream. -/
def Transcript.on (stream : Stream) (transcript : Transcript) : String :=
  String.join ((transcript.filter fun piece => piece.stream = stream).map (·.text))

/-- How a text stands out: codes that are switched on before it and all reset after it. -/
abbrev Emphasis := List Nat

namespace Emphasis

/-- Bold text. -/
def bold : Emphasis := [1]
/-- Bold and underlined text. -/
def heading : Emphasis := [1, 4]
/-- Green text. -/
def green : Emphasis := [32]
/-- Yellow text. -/
def yellow : Emphasis := [33]
/-- Cyan text. -/
def cyan : Emphasis := [36]
/-- Bright red text. -/
def brightRed : Emphasis := [91]

/-- A text that stands out. -/
def apply (emphasis : Emphasis) (text : String) : String :=
  String.ofList (emphasis.flatMap Style.sequence) ++ text ++ String.ofList Style.reset

end Emphasis

/-- A place to write for users, in colours or without. -/
structure Console where
  colored : Bool
  deriving Repr, DecidableEq

namespace Console

/-- A text as the console lets it through. -/
def rendered (console : Console) (text : String) : String :=
  if console.colored then text else Style.plain text

/-- A text that stands out where there are colours. -/
def styled (console : Console) (emphasis : Emphasis) (text : String) : String :=
  if console.colored then emphasis.apply text else text

/-- Writes a text to the results. -/
def write (console : Console) (text : String) : Piece := ⟨.results, console.rendered text⟩

/-- Writes a line to the results. -/
def print (console : Console) (text : String) : Piece := console.write (text ++ "\n")

/-- Writes a line to the diagnostics. -/
def report (console : Console) (text : String) : Piece :=
  ⟨.diagnostics, console.rendered (text ++ "\n")⟩

/-- Writes a warning. -/
def warn (console : Console) (text : String) : Piece :=
  console.report (Emphasis.yellow.apply text)

/-- Writes a failure. -/
def error (console : Console) (text : String) : Piece :=
  console.report (Emphasis.brightRed.apply text)

end Console

end BlockSync.Cli
