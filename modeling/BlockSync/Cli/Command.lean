import BlockSync.Cli.Program
import BlockSync.Cli.Switch

namespace BlockSync.Cli

/-!
# Commands

What each command is for, and which options it knows. The program itself knows options of its own,
which stand in front of the command.
-/

/-- A command. -/
inductive Command where
  | check
  | strip
  | fragments
  | version
  deriving Repr, DecidableEq

/-- The program, or one of its commands. -/
inductive Scope where
  | program
  | command (command : Command)
  deriving Repr, DecidableEq

namespace Command

/-- All commands, in the order of their names. -/
def commands : List Command := [check, fragments, strip, version]

/-- The name of a command. -/
def name : Command → String
  | check => "check"
  | strip => "strip"
  | fragments => "fragments"
  | version => "version"

/-- The command with a name. -/
def ofName? (name : String) : Option Command :=
  commands.find? fun command => command.name = name

/-- What a command does. -/
def purpose : Command → String
  | check => "Add or update generated blocks in the configured files."
  | strip => "Remove generated blocks from the configured files."
  | fragments => "List registered fragment adapters."
  | version => "Show the current version of TagMark."

/-- The options of a command besides help. -/
def ownSwitches : Command → List Switch
  | check | strip => [.root, .config, .value, .fragment, .apply, .diff]
  | fragments => [.long, .json]
  | version => []

/-- The paragraphs at the end of the help of a command. -/
def closing : Command → List String
  | check => [
      "Examples:",
      "# Preview which files would change (dry run, exits 2 if any) tagmark check --diff",
      "# Apply, providing a value on the command line tagmark check --apply --value api_key=XYZ"]
  | strip => [
      "Examples:",
      "# Preview which files would change (dry run, exits 2 if any) tagmark strip",
      "# Remove a single fragment's block in place tagmark strip --apply --fragment " ++
        "google-maps-cocoapods"]
  | fragments => [
      "Lists the built-in fragment adapters. Reference one from tagmark.toml with " ++
        "`use = \"<name>\"` and point `files` at the file it should edit."]
  | version => []

end Command

namespace Scope

/-- The words that lead to a scope. -/
def path : Scope → String
  | .program => programName
  | .command chosen => programName ++ " " ++ chosen.name

/-- The options of a scope. -/
def switches : Scope → List Switch
  | .program => [.quiet, .verbose, .noColor, .color, .help]
  | .command chosen => chosen.ownSwitches ++ [.help]

/-- The line that tells how a scope is used. -/
def usage (scope : Scope) : String :=
  let operands := match scope with
    | .program => " [OPTIONS] [COMMAND] [ARGS]..."
    | .command _ => " [OPTIONS]"
  "Usage: " ++ scope.path ++ operands

/-- What a scope is for. -/
def purpose : Scope → String
  | .program => programTitle ++ ": keep generated blocks in native project files in sync."
  | .command chosen => chosen.purpose

/-- The commands of a scope. -/
def commands : Scope → List Command
  | .program => Command.commands
  | .command _ => []

/-- The paragraphs at the end of the help of a scope. -/
def closing : Scope → List String
  | .program => []
  | .command chosen => chosen.closing

end Scope

end BlockSync.Cli
