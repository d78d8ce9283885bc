import BlockSync.Config.Error
import BlockSync.Glob.Expression
import BlockSync.Regex.Parser

namespace BlockSync.Glob

/-!
# Filters of paths

A filter is a list of patterns, of which the last one that matches a path decides.
-/

/-- A pattern with the text it was read from. One that means nothing has no expression. -/
structure Rule where
  text : String
  expression : Option (Bool × Regex.Pattern)
  deriving Repr, DecidableEq

/-- Patterns in order. -/
abbrev Filter := List Rule

/-- The rule that a pattern describes. -/
def Rule.parse (text : String) : Except Fault Rule :=
  match Line.parse? text with
  | none => .error (.glob text)
  | some .nothing => .ok ⟨text, none⟩
  | some (.rule negated expression) =>
      match Regex.Pattern.parse expression with
      | .ok pattern => .ok ⟨text, some (negated, pattern)⟩
      | .error error => .error (.pattern error)

/-- The filter that patterns describe; empty patterns are left out. -/
def Filter.parse (patterns : List String) : Except Fault Filter :=
  (patterns.filter (!·.isEmpty)).mapM Rule.parse

/-- What a rule says of a path: whether it is taken in or left out, if the rule matches it. -/
def Rule.verdict? (rule : Rule) (path : List Char) : Option Bool :=
  match rule.expression with
  | none => none
  | some (negated, pattern) => if pattern.occursIn path then some (!negated) else none

/-- Whether a filter takes a path in: the last rule that matches it decides. -/
def Filter.accepts (filter : Filter) (path : List Char) : Bool :=
  (filter.reverse.findSome? fun rule => rule.verdict? path).getD false

end BlockSync.Glob
