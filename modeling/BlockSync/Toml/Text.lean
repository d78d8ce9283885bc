import BlockSync.Text.Digit
import BlockSync.Toml.Failure

namespace BlockSync.Toml

/-!
# Quoted texts

A quoted text stands on one line between single quotes, or on any number of lines between triple
quotes. Between double quotes a backslash introduces an escape; between single ones it is a
character like any other. A line feed right after an opening triple quote is dropped, and so is all
blank space from a backslash at the end of a line on.
-/

/-- A space, a tab or a line end. -/
def isSpace (c : Char) : Bool := c = ' ' || c = '\t' || c = '\n' || c = '\r'

/-- A control character that has to be escaped; a tab has not. -/
def isControl (c : Char) : Bool := (c.toNat ≤ 0x1F && c ≠ '\t') || c = '\x7f'

/-- The characters that single letters stand for. -/
def escapedChar? : Char → Option Char
  | 'b' => some '\x08'
  | 'e' => some '\x1b'
  | 't' => some '\t'
  | 'n' => some '\n'
  | 'f' => some '\x0c'
  | 'r' => some '\r'
  | '"' => some '"'
  | '\\' => some '\\'
  | _ => none

/-- How many hexadecimal digits follow a letter that introduces the code of a character. -/
def codeWidth? : Char → Option Nat
  | 'x' => some 2
  | 'u' => some 4
  | 'U' => some 8
  | _ => none

/-- The character with a code in hexadecimal digits. Halves of pairs are none. -/
def codedChar? (digits : List Char) : Option Char := do
  let values ← digits.mapM (Text.digitValue? 16)
  let code := values.foldl (fun code value => 16 * code + value) 0
  if code.isValidChar then some (Char.ofNat code) else none

/-- The character that an escape stands for, read from behind the backslash. -/
def escape : List Char → Except Failure (Char × List Char)
  | [] => refuse .endOfText
  | mark :: rest =>
      match escapedChar? mark, codeWidth? mark with
      | some c, _ => .ok (c, rest)
      | none, none => refuse .invalidEscape
      | none, some width =>
          if rest.length < width then refuse .invalidEscape
          else
            match codedChar? (rest.take width) with
            | some c => .ok (c, rest.drop width)
            | none => refuse .invalidEscape

/-- The rest of a text on one line. Fuel of the length is enough. -/
def lineText (quote : Char) : Nat → List Char → Except Failure (List Char × List Char)
  | _, [] => refuse .endOfText
  | 0, _ => refuse .endOfText
  | fuel + 1, c :: rest =>
      if c = quote then .ok ([], rest)
      else if isControl c then refuse .controlCharacter
      else do
        let (c, rest) ← if c = '\\' && quote = '"' then escape rest else pure (c, rest)
        let (text, rest) ← lineText quote fuel rest
        return (c :: text, rest)

/--
The rest of a text on many lines, given how many quotes were read just before. Up to two quotes in
front of the closing three belong to the text. Fuel of the length is enough.
-/
def blockText (quote : Char) : Nat → Nat → List Char → Except Failure (List Char × List Char)
  | 0, _, _ => refuse .endOfText
  | fuel + 1, quotes, text =>
      if text.head? = some quote then
        blockText quote fuel (quotes + 1) (text.drop 1)
      else if 6 ≤ quotes then refuse .tooManyQuotes
      else if 3 ≤ quotes then .ok (List.replicate (quotes - 3) quote, text)
      else
        match text with
        | [] => refuse .endOfText
        | c :: rest =>
            if isControl c && c ≠ '\n' then refuse .controlCharacter
            else do
              let (written, rest) ←
                if c = '\\' && quote = '"' then
                  let skipped := rest.takeWhile isSpace
                  if skipped.isEmpty then do
                    let (c, rest) ← escape rest
                    pure ([c], rest)
                  else if skipped.contains '\n' then
                    pure ([], rest.drop skipped.length)
                  else
                    refuse .invalidEscape
                else pure ([c], rest)
              let (text, rest) ← blockText quote fuel 0 rest
              return (List.replicate quotes quote ++ written ++ text, rest)

/-- A quoted text, read from behind its first quote, and whether it can have many lines. -/
def quotedText (quote : Char) (rest : List Char) :
    Except Failure ((String × Bool) × List Char) := do
  match rest with
  | first :: second :: others =>
      if first = quote && second = quote then
        let others := if others.head? = some '\n' then others.drop 1 else others
        let (text, rest) ← blockText quote (others.length + 1) 0 others
        return ((String.ofList text, true), rest)
  | _ => pure ()
  let (text, rest) ← lineText quote rest.length rest
  return ((String.ofList text, false), rest)

end BlockSync.Toml
