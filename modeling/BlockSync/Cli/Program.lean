namespace BlockSync.Cli

/-!
# The program

The names that the program goes by in what it prints.
-/

/-- The name on the command line. -/
def programName : String := "tagmark"

/-- The name in running text. -/
def programTitle : String := "TagMark"

/-- The version of the program. -/
def version : String := "0.1.0"

end BlockSync.Cli
