import BlockSync.Toml.Text

namespace BlockSync.Toml

/-!
# Keys

A key is a list of parts between dots. A part is either quoted or made of ASCII letters, digits,
hyphens and underscores; spaces around it are dropped. The number of parts is limited.
-/

/-- A character of a part that is not quoted. -/
def isBareKeyChar (c : Char) : Bool := c.isAlphanum || c = '-' || c = '_'

/-- A space or a tab. -/
def isIndent (c : Char) : Bool := c = ' ' || c = '\t'

/-- A part of a key. -/
def keyPart (text : List Char) : Except Failure (String × List Char) := do
  let text := text.dropWhile isIndent
  match text with
  | first :: rest =>
      if first = '"' || first = '\'' then
        let ((name, multiline), rest) ← quotedText first rest
        if multiline then refuse .unexpected
        return (name, rest.dropWhile isIndent)
  | [] => pure ()
  let written := text.takeWhile fun c => isBareKeyChar c || isIndent c
  let name := Text.trim written
  if name.isEmpty then refuse .emptyKey
  else if name.any isIndent then refuse .invalidKey
  else return (String.ofList name, text.drop written.length)

/-- A key. Fuel of the length is enough. -/
def keyWithin : Nat → List Char → Except Failure (List String × List Char)
  | 0, _ => refuse .emptyKey
  | fuel + 1, text => do
      let (name, rest) ← keyPart text
      match rest with
      | '.' :: rest =>
          let (names, rest) ← keyWithin fuel rest
          return (name :: names, rest)
      | _ => return ([name], rest)

/-- A key with at least one part. -/
def key (text : List Char) : Except Failure (List String × List Char) := do
  let (names, rest) ← keyWithin (text.length + 1) text
  if nestingLimit < names.length then refuse .tooDeep
  return (names, rest)

end BlockSync.Toml
