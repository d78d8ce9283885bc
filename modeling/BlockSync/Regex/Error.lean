import BlockSync.Regex.Node
import BlockSync.Text.Digit
import BlockSync.Text.Quoted

namespace BlockSync.Regex

/-!
# Refused patterns

Why a text is no pattern, and where. Positions count characters from zero; when the pattern has
several lines, the line and the column are added.
-/

/-- What a name stands for. -/
inductive NameKind where
  | group
  | character
  deriving Repr, DecidableEq

/-- The word for a kind of name. -/
def NameKind.text : NameKind → String
  | .group => "group name"
  | .character => "character name"

/-- What is wrong with a pattern. -/
inductive Cause where
  | escapeAtEnd
  | badEscape (escape : String)
  | incompleteEscape (escape : String)
  | octalTooLarge (escape : String)
  | missingBrace
  | missingName (kind : NameKind)
  | unterminatedName (kind : NameKind) (terminator : Char)
  | undefinedCharacter (name : String)
  | badGroupName (name : String)
  | redefinedGroup (name : String) (index earlier : Nat)
  | unknownGroup (name : String)
  | openGroup
  | groupInsideLookBehind
  | invalidGroup (index : Nat)
  | badGroupNumber
  | unterminatedSet
  | badRange (first last : String)
  | repeatBounds
  | nothingToRepeat
  | multipleRepeat
  | repeatTooLarge
  | repeatTooLong (digits : Nat)
  | endOfPattern
  | unknownExtension (text : String)
  | unterminatedComment
  | unterminatedGroup
  | tooManyBranches
  | misplacedGlobalFlags
  | localeFlag
  | incompatibleFlags
  | expectedFlagEnd
  | unknownFlag
  | globalFlagOn
  | globalFlagOff
  | missingFlag
  | expectedColon
  | characterSetFlagOff
  | flagOnAndOff
  | unbalancedParenthesis
  | asciiAndUnicode
  | variableLookBehind
  | wideLookBehind
  | templateRepeat (mode : RepeatMode)
  deriving Repr, DecidableEq

/-- The message of a cause. -/
def Cause.message : Cause → String
  | .escapeAtEnd => "bad escape (end of pattern)"
  | .badEscape escape => "bad escape " ++ escape
  | .incompleteEscape escape => "incomplete escape " ++ escape
  | .octalTooLarge escape => "octal escape value " ++ escape ++ " outside of range 0-0o377"
  | .missingBrace => "missing \x7b"
  | .missingName kind => "missing " ++ kind.text
  | .unterminatedName _ terminator =>
      "missing " ++ String.ofList [terminator] ++ ", unterminated name"
  | .undefinedCharacter name => "undefined character name " ++ Text.quoted name
  | .badGroupName name => "bad character in group name " ++ Text.quoted name
  | .redefinedGroup name index earlier =>
      "redefinition of group name " ++ Text.quoted name ++ " as group " ++ toString index ++
        "; was group " ++ toString earlier
  | .unknownGroup name => "unknown group name " ++ Text.quoted name
  | .openGroup => "cannot refer to an open group"
  | .groupInsideLookBehind =>
      "cannot refer to group defined in the same lookbehind subpattern"
  | .invalidGroup index => "invalid group reference " ++ toString index
  | .badGroupNumber => "bad group number"
  | .unterminatedSet => "unterminated character set"
  | .badRange first last => "bad character range " ++ first ++ "-" ++ last
  | .repeatBounds => "min repeat greater than max repeat"
  | .nothingToRepeat => "nothing to repeat"
  | .multipleRepeat => "multiple repeat"
  | .repeatTooLarge => "the repetition number is too large"
  | .repeatTooLong count => Text.tooManyDigits count
  | .endOfPattern => "unexpected end of pattern"
  | .unknownExtension text => "unknown extension ?" ++ text
  | .unterminatedComment => "missing ), unterminated comment"
  | .unterminatedGroup => "missing ), unterminated subpattern"
  | .tooManyBranches => "conditional backref with more than two branches"
  | .misplacedGlobalFlags => "global flags not at the start of the expression"
  | .localeFlag => "bad inline flags: cannot use 'L' flag with a str pattern"
  | .incompatibleFlags => "bad inline flags: flags 'a', 'u' and 'L' are incompatible"
  | .expectedFlagEnd => "missing -, : or )"
  | .unknownFlag => "unknown flag"
  | .globalFlagOn => "bad inline flags: cannot turn on global flag"
  | .globalFlagOff => "bad inline flags: cannot turn off global flag"
  | .missingFlag => "missing flag"
  | .expectedColon => "missing :"
  | .characterSetFlagOff => "bad inline flags: cannot turn off flags 'a', 'u' and 'L'"
  | .flagOnAndOff => "bad inline flags: flag turned on and off"
  | .unbalancedParenthesis => "unbalanced parenthesis"
  | .asciiAndUnicode => "ASCII and UNICODE flags are incompatible"
  | .variableLookBehind => "look-behind requires fixed-width pattern"
  | .wideLookBehind => "invalid SRE code"
  | .templateRepeat .greedy => "internal: unsupported template operator MAX_REPEAT"
  | .templateRepeat .reluctant => "internal: unsupported template operator MIN_REPEAT"
  | .templateRepeat .possessive =>
      "internal: unsupported template operator POSSESSIVE_REPEAT"

/--
Whether a cause is a defect of the pattern's text, as against a number that is too large, a value
that cannot be, or a pattern that cannot be run.
-/
inductive ErrorKind where
  | malformed
  | overflow
  | value
  | unusable
  deriving Repr, DecidableEq

/-- The kind of a cause. -/
def Cause.kind : Cause → ErrorKind
  | .repeatTooLarge => .overflow
  | .asciiAndUnicode | .repeatTooLong _ => .value
  | .wideLookBehind => .unusable
  | _ => .malformed

/-- A refused pattern: the cause and, where there is one, the position. -/
structure Error where
  cause : Cause
  position? : Option Nat
  pattern : List Char
  deriving Repr, DecidableEq

/-- The kind of a refusal. -/
def Error.kind (error : Error) : ErrorKind := error.cause.kind

/-- The message of a refusal, with its position. -/
def Error.message (error : Error) : String :=
  match error.position? with
  | none => error.cause.message
  | some position =>
      let before := error.pattern.take position
      let line := before.count '\n' + 1
      let column := (before.reverse.takeWhile (· != '\n')).length + 1
      let place :=
        if error.pattern.contains '\n' then
          " (line " ++ toString line ++ ", column " ++ toString column ++ ")"
        else
          ""
      error.cause.message ++ " at position " ++ toString position ++ place

end BlockSync.Regex
