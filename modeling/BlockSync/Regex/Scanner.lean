import BlockSync.Regex.Error

namespace BlockSync.Regex

/-!
# Reading a pattern token by token

A token is a character, or a backslash with the character after it. One token is always read
ahead, so a backslash at the end of a pattern is refused as soon as the token before it is taken.
-/

/-- The options of a pattern, by the letters that switch them. -/
inductive Flag where
  | ascii
  | ignoreCase
  | locale
  | multiLine
  | dotAll
  | template
  | unicode
  | verbose
  deriving Repr, DecidableEq

/-- The option that a letter switches. -/
def Flag.ofChar? : Char → Option Flag
  | 'a' => some .ascii
  | 'i' => some .ignoreCase
  | 'L' => some .locale
  | 'm' => some .multiLine
  | 's' => some .dotAll
  | 't' => some .template
  | 'u' => some .unicode
  | 'x' => some .verbose
  | _ => none

/-- Whether an option selects the character classes; at most one of these may be on. -/
def Flag.selectsClasses : Flag → Bool
  | .ascii | .locale | .unicode => true
  | _ => false

/-- The options inside a group that switches some on and some off. -/
def Flag.combine (current switchedOn switchedOff : List Flag) : List Flag :=
  let kept :=
    if switchedOn.any (·.selectsClasses) then current.filter (!·.selectsClasses) else current
  (kept ++ switchedOn).filter fun flag => !switchedOff.contains flag

/-- A character, or a backslash with the character after it. -/
inductive Token where
  | plain (c : Char)
  | escaped (c : Char)
  deriving Repr, DecidableEq

/-- The characters of a token. -/
def Token.chars : Token → List Char
  | .plain c => [c]
  | .escaped c => ['\\', c]

/-- The text of a token. -/
def Token.text (token : Token) : String := String.ofList token.chars

/-- How far a pattern has been read, and what is known of its options and groups. -/
structure Progress where
  pattern : List Char
  token : Option Token
  position : Nat
  rest : List Char
  flags : List Flag
  groups : List (Option Width)
  names : List (String × Nat)
  lookBehindGroups : Option Nat
  expectedGroups : List (Nat × Nat)

/-- Reading that may refuse the pattern. -/
abbrev Reader := StateT Progress (Except Error)

/-- The token that starts a text, and the text after it. -/
def nextToken (pattern : List Char) : List Char → Except Error (Option Token × List Char)
  | [] => .ok (none, [])
  | ['\\'] => .error ⟨.escapeAtEnd, some (pattern.length - 1), pattern⟩
  | '\\' :: c :: rest => .ok (some (.escaped c), rest)
  | c :: rest => .ok (some (.plain c), rest)

/-- The progress before anything but the token ahead is read. -/
def Progress.start (pattern : List Char) : Except Error Progress := do
  let (token, rest) ← nextToken pattern pattern
  return ⟨pattern, token, 0, rest, [], [none], [], none, []⟩

namespace Reader

/-- Refuses the pattern, a number of characters before the token ahead. -/
def fail (cause : Cause) (back : Nat) : Reader α := do
  let progress ← get
  throw ⟨cause, some (progress.position - back), progress.pattern⟩

/-- Refuses the pattern at a given position. -/
def failAt (cause : Cause) (position? : Option Nat) : Reader α := do
  let progress ← get
  throw ⟨cause, position?, progress.pattern⟩

/-- The token ahead. -/
def peek : Reader (Option Token) := return (← get).token

/-- The position of the token ahead. -/
def position : Reader Nat := return (← get).position

/-- Takes the token ahead. -/
def take : Reader (Option Token) := do
  let progress ← get
  match progress.token with
  | none => return none
  | some token =>
      let (next, rest) ← nextToken progress.pattern progress.rest
      set { progress with
        token := next
        position := progress.position + token.chars.length
        rest := rest }
      return some token

/-- Takes the token ahead if it is a given character. -/
def accept (c : Char) : Reader Bool := do
  if (← peek) = some (.plain c) then
    let _ ← take
    return true
  else
    return false

/-- Takes up to a number of characters that satisfy a test. -/
def takeWhile (test : Char → Bool) : Nat → Reader (List Char)
  | 0 => return []
  | limit + 1 => do
      match ← peek with
      | some (.plain c) =>
          if test c then
            let _ ← take
            return c :: (← takeWhile test limit)
          else
            return []
      | _ => return []

/-- Takes a name up to its terminator, which is taken too; fuel bounds the number of tokens. -/
def takeName (terminator : Char) (kind : NameKind) : Nat → List Char → Reader (List Char)
  | 0, _ => fail .endOfPattern 0
  | fuel + 1, name => do
      match ← take with
      | none =>
          if name.isEmpty then fail (.missingName kind) 0
          else fail (.unterminatedName kind terminator) name.length
      | some token =>
          if token = .plain terminator then
            if name.isEmpty then fail (.missingName kind) 1 else return name
          else
            takeName terminator kind fuel (name ++ token.chars)

/-- The number of tokens a pattern can have at most, and one more. -/
def tokenLimit : Reader Nat := return (← get).pattern.length + 1

end Reader

end BlockSync.Regex
