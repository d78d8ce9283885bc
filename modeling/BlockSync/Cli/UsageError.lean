import BlockSync.Cli.Closeness
import BlockSync.Cli.Command
import BlockSync.Text.Quoted

namespace BlockSync.Cli

/-!
# Misused command lines

What can be wrong with the words of a command line. Most messages come with the usage of the scope
that refused the words.
-/

/-- Why an operand is refused. -/
inductive OperandFault where
  | notAmong (words : List String)
  | isFile
  | isDirectory
  deriving Repr, DecidableEq

/-- Why the words of a command line are refused. -/
inductive UsageError where
  | unknownOption (name : String) (close : List String)
  | operandMissing (name : String)
  | operandUnexpected (name : String)
  | operandRefused (name operand : String) (fault : OperandFault)
  | wordsUnexpected (words : List String)
  | unknownCommand (name : String) (close : List String)
  deriving Repr, DecidableEq

/-- What a refused operand is. -/
def OperandFault.message (operand : String) : OperandFault → String
  | .notAmong words =>
      Text.quoted operand ++ " is not one of " ++ ", ".intercalate (words.map Text.quoted) ++ "."
  | .isFile => "Directory " ++ Text.quoted operand ++ " is a file."
  | .isDirectory => "File " ++ Text.quoted operand ++ " is a directory."

/-- A hint at the names that could have been meant. -/
def closeHint : List String → String
  | [] => ""
  | [name] => " Did you mean " ++ Text.quoted name ++ "?"
  | names => " (Did you mean one of: " ++ ", ".intercalate (names.map Text.quoted) ++ "?)"

namespace UsageError

/-- The message of a refused command line. -/
def message : UsageError → String
  | unknownOption name close => "No such option " ++ Text.quoted name ++ "." ++ closeHint close
  | operandMissing name => "Option " ++ Text.quoted name ++ " requires an argument."
  | operandUnexpected name => "Option " ++ Text.quoted name ++ " does not take a value."
  | operandRefused name operand fault =>
      "Invalid value for " ++ Text.quoted name ++ ": " ++ fault.message operand
  | wordsUnexpected words =>
      "Got unexpected extra " ++ (if words.length = 1 then "argument" else "arguments") ++
        " (" ++ " ".intercalate words ++ ")"
  | unknownCommand name close => "No such command " ++ Text.quoted name ++ "." ++ closeHint close

/-- Whether the usage stands above a message. -/
def showsUsage : UsageError → Bool
  | operandMissing _ | operandUnexpected _ => false
  | _ => true

/-- The text of a refused command line. -/
def text (scope : Scope) (error : UsageError) : String :=
  let usage :=
    if error.showsUsage then
      scope.usage ++ "\nTry '" ++ scope.path ++ " --help' for help.\n\n"
    else
      ""
  usage ++ "Error: " ++ error.message ++ "\n"

end UsageError

end BlockSync.Cli
