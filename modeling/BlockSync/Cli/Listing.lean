import BlockSync.Cli.Results
import BlockSync.Fragment.Registry

namespace BlockSync.Cli

/-!
# The list of fragments

The registered fragments by name: with their descriptions, with all that can be configured about
them, or in a format for other programs.
-/

/-- A value in the format for other programs. -/
inductive JsonValue where
  | text (text : String)
  | list (items : List String)

namespace JsonValue

/-- A code unit of sixteen bits as an escape. -/
def unitEscape (unit : Nat) : List Char := '\\' :: 'u' :: Text.hexadecimal 4 unit

/-- A character between double quotes; beyond ASCII, everything is escaped. -/
def escapeChar (c : Char) : List Char :=
  if c = '"' ∨ c = '\\' then ['\\', c]
  else if c = '\n' then ['\\', 'n']
  else if c = '\r' then ['\\', 'r']
  else if c = '\t' then ['\\', 't']
  else if c = '\x08' then ['\\', 'b']
  else if c = '\x0c' then ['\\', 'f']
  else if ' ' ≤ c ∧ c ≤ '~' then [c]
  else if c.toNat < 0x10000 then unitEscape c.toNat
  else
    let rest := c.toNat - 0x10000
    unitEscape (0xD800 + rest / 0x400) ++ unitEscape (0xDC00 + rest % 0x400)

/-- A text between double quotes. -/
def quote (text : String) : String :=
  String.ofList ('"' :: text.toList.flatMap escapeChar ++ ['"'])

/-- Lines between brackets, each indented and all but the last followed by a comma. -/
def block (indent : String) (opener closer : String) (lines : List String) : String :=
  if lines.isEmpty then opener ++ closer
  else
    opener ++ "\n" ++ ",\n".intercalate (lines.map (indent ++ "  " ++ ·)) ++ "\n" ++ indent ++
      closer

/-- A value behind some indentation. -/
def render (indent : String) : JsonValue → String
  | .text content => quote content
  | .list items => block indent "[" "]" (items.map quote)

end JsonValue

namespace Listing

/-- What is told of a fragment to other programs. -/
def fields (fragment : Fragment) : List (String × JsonValue) := [
  ("name", .text fragment.name),
  ("description", .text fragment.description),
  ("tag", .text fragment.tag),
  ("anchor", .text fragment.anchor.description),
  ("placement", .text fragment.anchor.placement.text),
  ("comment", .text fragment.style.opener),
  ("required_values", .list fragment.required)]

/-- The list in the format for other programs. -/
def jsonText (fragments : List Fragment) : String :=
  JsonValue.block "" "[" "]" (fragments.map fun fragment =>
    JsonValue.block "  " "\x7b" "\x7d" ((fields fragment).map fun (name, value) =>
      JsonValue.quote name ++ ": " ++ value.render "    "))

/-- What can be configured about a fragment. -/
def details (console : Console) (fragment : Fragment) : Transcript :=
  let required :=
    if fragment.required.isEmpty then "-" else ", ".intercalate fragment.required
  [console.print ("    tag       : " ++ fragment.tag),
    console.print ("    anchor    : " ++ fragment.anchor.placement.text ++ " " ++
      Text.quoted fragment.anchor.description),
    console.print ("    comment   : " ++ fragment.style.opener),
    console.print ("    requires  : " ++ required)]

/-- The list for users, with details or without. -/
def text (console : Console) (detailed : Bool) (fragments : List Fragment) : Transcript :=
  let width := (fragments.map (·.name.length)).foldl max 0
  console.print (console.styled .heading "Registered fragments:") ::
    fragments.flatMap fun fragment =>
      console.print ("  " ++ console.styled .bold (padRight width fragment.name) ++ "  " ++
        fragment.description) ::
      (if detailed then details console fragment else [])

end Listing

end BlockSync.Cli
