import BlockSync.Cli.UsageError

namespace BlockSync.Cli

/-!
# Scanning a command line

The words of a command line are options, operands of options, or free words. Two hyphens end the
options. An option and its operand are one word with an equals sign, or two words, the second of
which may look like anything. Short names can share a word.
-/

/-- An option that was given, with its operand if it takes one. -/
structure Use where
  switch : Switch
  operand : Option String
  deriving Repr, DecidableEq

/-- The options and the free words of a command line. -/
structure Scan where
  uses : List Use
  words : List String
  deriving Repr, DecidableEq

/-- What one word gives: complete options, or an option that waits for its operand. -/
inductive WordReading where
  | complete (uses : List Use)
  | waiting (switch : Switch)
  deriving Repr, DecidableEq

/-- Whether a word is taken for an option: a hyphen with something behind it. -/
def looksLikeOption (word : String) : Bool :=
  match word.toList with
  | '-' :: _ :: _ => true
  | _ => false

/-- The options whose short names share a word. -/
def readLetters (known : List Switch) : List Char → Except UsageError (List Use)
  | [] => .ok []
  | letter :: others =>
      match known.find? fun switch => switch.letter? = some letter with
      | none => .error (.unknownOption ("-" ++ String.singleton letter) [])
      | some switch => do return ⟨switch, none⟩ :: (← readLetters known others)

/-- The option that is written with its long name, up to an equals sign if there is one. -/
def readLong
    (switch : Switch)
    (attached : Option String) :
    Except UsageError WordReading :=
  match switch.operand?, attached with
  | some _, some operand => .ok (.complete [⟨switch, some operand⟩])
  | some _, none => .ok (.waiting switch)
  | none, some _ => .error (.operandUnexpected switch.name)
  | none, none => .ok (.complete [⟨switch, none⟩])

/-- What a word that looks like an option gives. -/
def readOption (known : List Switch) (word : String) : Except UsageError WordReading :=
  let chars := word.toList
  let name := String.ofList (chars.takeWhile (· ≠ '='))
  let attached := match chars.dropWhile (· ≠ '=') with
    | _ :: operand => some (String.ofList operand)
    | [] => none
  match known.find? fun switch => switch.name = name with
  | some switch => readLong switch attached
  | none =>
      match chars with
      | '-' :: '-' :: _ =>
          .error (.unknownOption name (closeNames name (known.map Switch.name)))
      | _ => do return .complete (← readLetters known (chars.drop 1))

namespace Scan

/-- Nothing but free words. -/
def ofWords (words : List String) : Scan := ⟨[], words⟩

/-- Puts options in front. -/
def withUses (uses : List Use) (scan : Scan) : Scan := { scan with uses := uses ++ scan.uses }

/-- Puts a free word in front. -/
def withWord (word : String) (scan : Scan) : Scan := { scan with words := word :: scan.words }

/--
Scans a command line for known options. Where free words are not `mixed` with options, the first
free word ends the options.
-/
def ofLine (known : List Switch) (mixed : Bool) : List String → Except UsageError Scan
  | [] => .ok (ofWords [])
  | word :: rest =>
      if word = "--" then
        .ok (ofWords rest)
      else if looksLikeOption word then
        match readOption known word with
        | .error error => .error error
        | .ok (.complete uses) => (ofLine known mixed rest).map (withUses uses)
        | .ok (.waiting switch) =>
            match rest with
            | [] => .error (.operandMissing switch.name)
            | operand :: rest =>
                (ofLine known mixed rest).map (withUses [⟨switch, some operand⟩])
      else if mixed then
        (ofLine known mixed rest).map (withWord word)
      else
        .ok (ofWords (word :: rest))

/-- How often an option was given. -/
def count (scan : Scan) (switch : Switch) : Nat :=
  scan.uses.countP fun use => use.switch = switch

/-- Whether an option was given. -/
def has (scan : Scan) (switch : Switch) : Bool := scan.count switch ≠ 0

/-- The operands of an option that count: all of them, or the last one. -/
def operands (scan : Scan) (switch : Switch) : List String :=
  let given := (scan.uses.filter fun use => use.switch = switch).filterMap (·.operand)
  if switch.isRepeatable then given else given.getLast?.toList

/-- The operand of an option, given or by default. -/
def operand? (scan : Scan) (switch : Switch) : Option String :=
  match scan.operands switch with
  | [] => switch.default?
  | operand :: _ => some operand

/-- The options that were given, each once, in the order in which they were first given. -/
def switches (scan : Scan) : List Switch := (scan.uses.map (·.switch)).eraseDups

end Scan

end BlockSync.Cli
