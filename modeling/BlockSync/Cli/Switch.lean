import BlockSync.Cli.Color

namespace BlockSync.Cli

/-!
# Options

Every option has a long name, some have a short one, and some are followed by an operand. An option
with a short name takes no operand, so short names can be written together.
-/

/-- An option. -/
inductive Switch where
  | quiet
  | verbose
  | noColor
  | color
  | root
  | config
  | value
  | fragment
  | apply
  | diff
  | long
  | json
  | help
  deriving Repr, DecidableEq

/-- What follows an option: any text, one of some words, or the path of a directory or a file. -/
inductive Operand where
  | text (name : String)
  | choice (words : List String)
  | directory
  | file
  deriving Repr, DecidableEq

/-- The operand in a line of help. -/
def Operand.display : Operand → String
  | .text name => name
  | .choice words => "[" ++ "|".intercalate words ++ "]"
  | .directory => "DIRECTORY"
  | .file => "FILE"

namespace Switch

/-- The long name of an option. -/
def name : Switch → String
  | quiet => "--quiet"
  | verbose => "--verbose"
  | noColor => "--no-color"
  | color => "--color"
  | root => "--root"
  | config => "--config"
  | value => "--value"
  | fragment => "--fragment"
  | apply => "--apply"
  | diff => "--diff"
  | long => "--long"
  | json => "--json"
  | help => "--help"

/-- The letter of an option that has a short name. -/
def letter? : Switch → Option Char
  | quiet => some 'q'
  | verbose => some 'v'
  | help => some 'h'
  | _ => none

/-- What follows an option, if anything. -/
def operand? : Switch → Option Operand
  | color => some (.choice (ColorMode.modes.map ColorMode.text))
  | root => some .directory
  | config => some .file
  | value => some (.text "KEY=VALUE")
  | fragment => some (.text "NAME")
  | _ => none

/-- Whether all operands of an option count, and not just the last one. -/
def isRepeatable : Switch → Bool
  | config | value | fragment => true
  | _ => false

/-- The operand that an option has unless it is given. -/
def default? : Switch → Option String
  | root => some "."
  | _ => none

/-- What an option does. -/
def purpose : Switch → String
  | quiet => "Suppress per-file output; only errors are shown."
  | verbose => "Increase verbosity. Specify twice to list unchanged files too."
  | noColor => "Disable color output (equivalent to --color=never)."
  | color => "Color output: auto (default), always, or never."
  | root => "Project root; fragment file patterns are relative to it."
  | config => "Configuration file (tagmark.toml or pyproject.toml). Disables discovery."
  | value => "Set a value for fragment payloads; dotted keys nest. Repeatable."
  | fragment => "Only run the named fragment (adapter name or inline tag). Repeatable."
  | apply => "Write changes to files (off by default)."
  | diff => "Show unified diffs of the changes."
  | long => "Show tag, anchor, comment style and required values."
  | json => "Print the list as JSON."
  | help => "Show this message and exit."

/-- The names and the operand of an option in a line of help. -/
def display (switch : Switch) : String :=
  let short := match switch.letter? with
    | some letter => "-" ++ String.singleton letter ++ ", "
    | none => ""
  let operand := match switch.operand? with
    | some operand => " " ++ operand.display
    | none => ""
  short ++ switch.name ++ operand

/-- What a line of help says about an option. -/
def explanation (switch : Switch) : String :=
  match switch.default? with
  | some operand => switch.purpose ++ " [default: " ++ operand ++ "]"
  | none => switch.purpose

end Switch

end BlockSync.Cli
