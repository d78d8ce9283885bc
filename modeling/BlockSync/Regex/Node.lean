import BlockSync.Regex.CharTest

namespace BlockSync.Regex

/-!
# Patterns as trees

The tree of a pattern, with every option already resolved at the node it applies to, and the range
of lengths that a tree can match.
-/

/-- A condition on a position between characters. -/
inductive Place where
  | textStart
  | lineStart
  | textEnd
  | finalLineEnd
  | lineEnd
  | wordBoundary (asciiOnly : Bool)
  | insideOrOutsideWord (asciiOnly : Bool)
  deriving Repr, DecidableEq

/-- Which number of repetitions is tried first, and whether others are tried after it. -/
inductive RepeatMode where
  | greedy
  | reluctant
  | possessive
  deriving Repr, DecidableEq

/-- The least and the greatest length of a match. -/
structure Width where
  least : Nat
  greatest : Nat
  deriving Repr, DecidableEq

/-- A pattern. A choice is a list of alternatives: a chain of `alt` that ends with `never`. -/
inductive Node where
  | empty
  | never
  | char (test : CharTest)
  | place (condition : Place)
  | seq (first second : Node)
  | alt (first others : Node)
  | group (index : Nat) (body : Node)
  | backReference (index : Nat) (casing : Casing) (width : Width)
  | lookAhead (negated : Bool) (body : Node)
  | lookBehind (negated : Bool) (distance : Nat) (body : Node)
  | atomic (body : Node)
  | conditional (index : Nat) (whenSet whenUnset : Node)
  | loop (mode : RepeatMode) (least : Nat) (greatest : Option Nat) (body : Node)
  deriving Repr, DecidableEq

/-- The pattern that matches some patterns one after another. -/
def Node.ofList : List Node → Node
  | [] => .empty
  | [node] => node
  | node :: rest => .seq node (ofList rest)

/-- The pattern that matches one of some patterns; the first that leads to a match counts. -/
def Node.ofAlternatives (nodes : List Node) : Node := nodes.foldr .alt .never

/-- Whether a pattern asks for nothing. -/
def Node.isBlank : Node → Bool
  | .empty => true
  | .seq first second => first.isBlank && second.isBlank
  | _ => false

/--
The test that the first character of a match has to pass, where the pattern starts with a single
character that is compared exactly.
-/
def Node.firstTest? : Node → Option CharTest
  | .char test =>
      match test with
      | .literal .exact false _ => some test
      | .set .exact _ _ => some test
      | _ => none
  | .seq first second => if first.isBlank then second.firstTest? else first.firstTest?
  | _ => none

/-- The exact literal that a pattern starts with; a blank pattern starts with what follows it. -/
def Node.firstLiteral? (node : Node) (next? : Option Nat) : Option Nat :=
  match node with
  | .empty => next?
  | .char (.literal .exact false code) => some code
  | .seq first second => first.firstLiteral? (second.firstLiteral? next?)
  | _ => none

/-- Whether every alternative of a choice starts with an exact literal. -/
def Node.startLiterally : Node → Bool
  | .never => true
  | .alt first others => (first.firstLiteral? none).isSome && others.startLiterally
  | _ => false

/-- Whether a match can only start with a literal, after groups that ask for nothing. -/
def Node.hasLiteralStart : Node → Option Bool
  | .empty => none
  | .char (.literal .exact false _) => some true
  | .group _ body => body.hasLiteralStart
  | .seq first second => first.hasLiteralStart.or second.hasLiteralStart
  | _ => some false

/-- Whether a match can only start with a member of a set that is plain from the pattern. -/
def Node.hasSetStart : Node → Bool
  | .char (.set .exact _ _) => true
  | .alt first others => (Node.alt first others).startLiterally
  | .group _ body => body.hasSetStart
  | .seq first _ => first.hasSetStart
  | _ => false

/-- Whether it is plain from a pattern which characters a match can start with. -/
def Node.hasPlainStart (node : Node) : Bool :=
  node.hasLiteralStart.getD false || node.hasSetStart

/-- The pattern that matches exactly a text. -/
def Node.ofText (text : List Char) : Node :=
  text.foldr (fun c rest => .seq (.char (.literal .exact false c.toNat)) rest) .empty

/-- The greatest number of repetitions that can be asked for, and one more. -/
def repeatLimit : Nat := 4294967295

/-- A width with both ends cut off, the least one below the limit and the greatest one at it. -/
def Width.capped (width : Width) : Width :=
  ⟨min width.least (repeatLimit - 1), min width.greatest repeatLimit⟩

/-- The range of lengths that a pattern can match; conditions on positions have length zero. -/
def Node.width : Node → Width
  | .empty => ⟨0, 0⟩
  | .never => ⟨repeatLimit - 1, 0⟩
  | .char _ => ⟨1, 1⟩
  | .place _ => ⟨0, 0⟩
  | .seq first second =>
      Width.capped ⟨first.width.least + second.width.least,
        first.width.greatest + second.width.greatest⟩
  | .alt first others =>
      ⟨min first.width.least others.width.least, max first.width.greatest others.width.greatest⟩
  | .group _ body => body.width
  | .backReference _ _ width => width
  | .lookAhead _ _ => ⟨0, 0⟩
  | .lookBehind _ _ _ => ⟨0, 0⟩
  | .atomic body => body.width
  | .conditional _ whenSet whenUnset =>
      ⟨min whenSet.width.least whenUnset.width.least,
        max whenSet.width.greatest whenUnset.width.greatest⟩
  | .loop _ least greatest body =>
      Width.capped
        ⟨body.width.least * least, body.width.greatest * greatest.getD repeatLimit⟩

end BlockSync.Regex
