import BlockSync.Regex.Node

namespace BlockSync.Regex

/-!
# Matching

A match is sought by trying the choices of a pattern in order and going back to the last open
choice when what follows fails. What follows is passed along as a continuation, so every run ends
as soon as the structure of the pattern and the rest of the text are used up.

Besides its position, a match keeps the position where a part of the pattern was last begun or
settled. An attempt that fails leaves that position behind. It counts in one place: when a turn of
a possessive repetition fails, the match goes on from where that turn was left, and not from where
it was begun. So `(\w{1,}?[ab])?+a` has no match in `a`, and `^([a-c]{1,}?c)*+$` has one in `cbca`.
Engines differ in this: later releases of the one described here go back to where the turn was
begun, which gives the other answer to both.
-/

/-- A position in a text: the characters before it in reverse, those after it, and its offset. -/
structure Cursor where
  behind : List Char
  ahead : List Char
  offset : Nat
  deriving Repr, DecidableEq

namespace Cursor

/-- The start of a text. -/
def start (text : List Char) : Cursor := ⟨[], text, 0⟩

/-- One character further. -/
def next? (cursor : Cursor) : Option (Char × Cursor) :=
  match cursor.ahead with
  | [] => none
  | c :: rest => some (c, ⟨c :: cursor.behind, rest, cursor.offset + 1⟩)

/-- One character further, if a test accepts that character. -/
def pass? (cursor : Cursor) (test : CharTest) : Option Cursor :=
  match cursor.ahead with
  | [] => none
  | c :: rest =>
      if test.accepts c then some ⟨c :: cursor.behind, rest, cursor.offset + 1⟩ else none

/-- A number of characters back. -/
def back? : Nat → Cursor → Option Cursor
  | 0, cursor => some cursor
  | count + 1, cursor =>
      match cursor.behind with
      | [] => none
      | c :: rest => back? count ⟨rest, c :: cursor.ahead, cursor.offset - 1⟩

/-- Past a given text, compared under a casing. -/
def passText? (casing : Casing) : List Char → Cursor → Option Cursor
  | [], cursor => some cursor
  | expected :: others, cursor =>
      match cursor.ahead with
      | [] => none
      | c :: rest =>
          if casing.fold expected.toNat = casing.fold c.toNat then
            passText? casing others ⟨c :: cursor.behind, rest, cursor.offset + 1⟩
          else
            none

/-- All positions reached by passing up to `limit` characters that a test accepts, last first. -/
def passes (test : CharTest) : Nat → Cursor → List Cursor → List Cursor
  | 0, cursor, reached => cursor :: reached
  | limit + 1, cursor, reached =>
      match cursor.pass? test with
      | some further => passes test limit further (cursor :: reached)
      | none => cursor :: reached

end Cursor

/-- Whether a position satisfies a condition. -/
def Place.holds (place : Place) (cursor : Cursor) : Bool :=
  let isWord := fun (asciiOnly : Bool) (c : Option Char) => c.any (isWordChar asciiOnly)
  let atBoundary := fun (asciiOnly : Bool) =>
    isWord asciiOnly cursor.behind.head? != isWord asciiOnly cursor.ahead.head?
  let textIsEmpty := cursor.behind.isEmpty && cursor.ahead.isEmpty
  match place with
  | .textStart => cursor.behind.isEmpty
  | .lineStart => cursor.behind.isEmpty || cursor.behind.head? == some '\n'
  | .textEnd => cursor.ahead.isEmpty
  | .finalLineEnd => cursor.ahead.isEmpty || cursor.ahead == ['\n']
  | .lineEnd => cursor.ahead.isEmpty || cursor.ahead.head? == some '\n'
  | .wordBoundary asciiOnly => !textIsEmpty && atBoundary asciiOnly
  | .insideOrOutsideWord asciiOnly => !textIsEmpty && !atBoundary asciiOnly

/--
A position, the position where a part was last begun or settled, and the last start and the last
end of every group.
-/
structure State where
  cursor : Cursor
  left : Cursor
  starts : List (Option Cursor)
  ends : List (Option Cursor)
  deriving Repr, DecidableEq

namespace State

/-- The same groups at another position. -/
def moveTo (state : State) (cursor : Cursor) : State := { state with cursor := cursor }

/-- Begins or settles a part at a position. -/
def beginAt (state : State) (cursor : Cursor) : State :=
  { state with cursor := cursor, left := cursor }

/-- Begins or settles a part here. -/
def beginHere (state : State) : State := state.beginAt state.cursor

/-- Records the position as the start of a group. -/
def openGroup (state : State) (index : Nat) : State :=
  { state with starts := state.starts.set index (some state.cursor) }

/-- Records the position as the end of a group. -/
def closeGroup (state : State) (index : Nat) : State :=
  { state with ends := state.ends.set index (some state.cursor) }

/-- The text of a group, if it has a start and an end no earlier than that. -/
def captured? (state : State) (index : Nat) : Option (List Char) := do
  let start ← state.starts.getD index none
  let stop ← state.ends.getD index none
  if stop.offset < start.offset then none
  else some (start.ahead.take (stop.offset - start.offset))

end State

/-- How an attempt ends: with a match, or with the position where it was left. -/
inductive Attempt where
  | matched (state : State)
  | failed (left : Cursor)
  deriving Repr, DecidableEq

namespace Attempt

/-- The state of a match. -/
def state? : Attempt → Option State
  | matched state => some state
  | failed _ => none

/-- Another attempt in place of a failed one, given where that one was left. -/
def orElse (attempt : Attempt) (other : Cursor → Attempt) : Attempt :=
  match attempt with
  | matched state => .matched state
  | failed left => other left

/-- A failed attempt counts as left at a given position. -/
def leftAt (attempt : Attempt) (cursor : Cursor) : Attempt :=
  attempt.orElse fun _ => .failed cursor

end Attempt

/-- What is still to be matched after some part of a pattern. -/
abbrev Continuation := State → Attempt

/-- The end of a part that is matched on its own. -/
def settle (state : State) : Attempt := .matched state.beginHere

/--
Goes on from each of some positions in turn, passing over those that do not satisfy a test; `left`
is where the attempt is left before the first of them.
-/
def tryFrom
    (isOpen : Cursor → Bool)
    (state : State)
    (continuation : Continuation) :
    Cursor → List Cursor → Attempt
  | left, [] => .failed left
  | left, cursor :: others =>
      if isOpen cursor then
        (continuation (state.beginAt cursor)).orElse fun left =>
          tryFrom isOpen state continuation left others
      else
        tryFrom isOpen state continuation left others

/-- Whether a position has a literal ahead, if one is given. -/
def Cursor.meets (next? : Option Nat) (cursor : Cursor) : Bool :=
  next?.all fun code => cursor.ahead.head?.any (·.toNat == code)

/--
Repeats a single character test. Where an exact literal follows, as many repetitions as possible
are given up at once until that literal is ahead. Counting with a folded set moves the position
where an attempt is left.
-/
def runChars
    (mode : RepeatMode)
    (least : Nat)
    (greatest : Option Nat)
    (test : CharTest)
    (next? : Option Nat)
    (state : State)
    (continuation : Continuation) :
    Attempt :=
  let start := state.cursor
  let available := start.ahead.length
  if available < least then
    .failed state.left
  else
    let counted := fun (limit : Nat) (cursor : Cursor) =>
      ((Cursor.passes test limit cursor []).head?).getD cursor
    let limit := match greatest with
      | some count => min count available
      | none => available
    let reached := Cursor.passes test limit start []
    let allowed := reached.take (reached.length - least)
    let leftAfter := fun (limit : Nat) (cursor : Cursor) =>
      if test.isFoldedSet then counted limit cursor else cursor
    match mode with
    | .greedy => tryFrom (·.meets next?) state continuation (leftAfter limit start) allowed
    | .reluctant =>
        match allowed with
        | [] => .failed (leftAfter least start)
        | last :: _ =>
            (tryFrom (fun _ => true) state continuation last allowed.reverse).leftAt
              (leftAfter 1 last)
    | .possessive =>
        match allowed with
        | [] => .failed (leftAfter limit start)
        | last :: _ =>
            continuation { state.moveTo last with left := leftAfter limit start }

/--
Repeats a body as often as possible first. Each turn after the mandatory ones must start further
on than the turn before it, so fuel of the mandatory turns and the characters of the text, and a
few more, is enough.
-/
def runGreedy
    (body : State → Continuation → Attempt)
    (least : Nat)
    (greatest : Option Nat)
    (continuation : Continuation) :
    Nat → Nat → Option Nat → State → Attempt
  | 0, _, _, state => .failed state.cursor
  | fuel + 1, count, previous, state =>
      let state := state.beginHere
      let turn := fun previous =>
        body state (runGreedy body least greatest continuation fuel (count + 1) previous)
      let attempt :=
        if count < least then
          turn previous
        else if greatest.all (count < ·) && previous != some state.cursor.offset then
          (turn (some state.cursor.offset)).orElse fun _ => continuation state
        else
          continuation state
      attempt.leftAt state.cursor

/-- Repeats a body as rarely as possible first. -/
def runReluctant
    (body : State → Continuation → Attempt)
    (least : Nat)
    (greatest : Option Nat)
    (continuation : Continuation) :
    Nat → Nat → Option Nat → State → Attempt
  | 0, _, _, state => .failed state.cursor
  | fuel + 1, count, previous, state =>
      let state := state.beginHere
      let turn := fun previous =>
        body state (runReluctant body least greatest continuation fuel (count + 1) previous)
      let attempt :=
        if count < least then
          turn previous
        else
          (continuation state).orElse fun left =>
            if greatest.all (count < ·) && previous != some state.cursor.offset then
              turn (some state.cursor.offset)
            else
              .failed left
      attempt.leftAt state.cursor

/--
Repeats a body as often as possible, each turn settled once and for all. A failed turn after the
mandatory ones ends the repetition where that turn was left; `origin` is where the first one began.
-/
def runPossessive
    (body : State → Continuation → Attempt)
    (least : Nat)
    (greatest : Option Nat)
    (origin : Cursor) :
    Nat → Nat → Option Nat → State → Attempt
  | 0, _, _, _ => .failed origin
  | fuel + 1, count, previous, state =>
      let state := state.beginHere
      if count < least then
        match body state settle with
        | .matched further =>
            runPossessive body least greatest origin fuel (count + 1) previous further
        | .failed _ => .failed origin
      else if greatest.all (count < ·) && previous != some state.cursor.offset then
        match body state settle with
        | .matched further =>
            runPossessive body least greatest origin fuel (count + 1)
              (some state.cursor.offset) further
        | .failed left => .matched (state.beginAt left)
      else
        .matched state

/--
Matches a pattern at a position, then what follows it; `next?` is the exact literal that comes
next, if one does.
-/
def Node.run : Node → Option Nat → State → Continuation → Attempt
  | .empty, _, state, continuation => continuation state
  | .never, _, state, _ => .failed state.left
  | .char test, _, state, continuation =>
      match state.cursor.pass? test with
      | some cursor => continuation (state.moveTo cursor)
      | none => .failed state.left
  | .place condition, _, state, continuation =>
      if condition.holds state.cursor then continuation state else .failed state.left
  | .seq first second, next?, state, continuation =>
      first.run (second.firstLiteral? next?) state fun state => second.run next? state continuation
  | .alt first others, _, state, continuation =>
      if first.firstTest?.all fun test => (state.cursor.pass? test).isSome then
        (first.run none state.beginHere continuation).orElse fun left =>
          others.run none { state with left := left } continuation
      else
        others.run none state continuation
  | .group index body, _, state, continuation =>
      body.run none (state.openGroup index) fun state => continuation (state.closeGroup index)
  | .backReference index casing _, _, state, continuation =>
      match (state.captured? index).bind fun text => state.cursor.passText? casing text with
      | some cursor => continuation (state.moveTo cursor)
      | none => .failed state.left
  | .lookAhead false body, _, state, continuation =>
      match body.run none state.beginHere settle with
      | .matched final => continuation (final.moveTo state.cursor)
      | .failed left => .failed left
  | .lookAhead true body, _, state, continuation =>
      match body.run none state.beginHere settle with
      | .matched final => .failed final.left
      | .failed left => continuation { state with left := left }
  | .lookBehind false distance body, _, state, continuation =>
      match state.cursor.back? distance with
      | none => .failed state.left
      | some cursor =>
          match body.run none (state.beginAt cursor) settle with
          | .matched final => continuation (final.moveTo state.cursor)
          | .failed left => .failed left
  | .lookBehind true distance body, _, state, continuation =>
      match state.cursor.back? distance with
      | none => continuation state
      | some cursor =>
          match body.run none (state.beginAt cursor) settle with
          | .matched final => .failed final.left
          | .failed left => continuation { state with left := left }
  | .atomic body, _, state, continuation =>
      match body.run none state.beginHere settle with
      | .matched final => continuation final
      | .failed _ => .failed state.cursor
  | .conditional index whenSet whenUnset, next?, state, continuation =>
      if (state.captured? index).isSome then
        whenSet.run (if whenUnset = .empty then next? else none) state continuation
      else
        whenUnset.run next? state continuation
  | .loop mode least greatest (.char test), next?, state, continuation =>
      runChars mode least greatest test next? state continuation
  | .loop mode least greatest body, _, state, continuation =>
      let cursor := state.cursor
      let fuel := least + cursor.behind.length + cursor.ahead.length + 3
      match mode with
      | .greedy => runGreedy (body.run none) least greatest continuation fuel 0 none state
      | .reluctant => runReluctant (body.run none) least greatest continuation fuel 0 none state
      | .possessive =>
          match runPossessive (body.run none) least greatest cursor fuel 0 none state with
          | .matched final => continuation final
          | .failed left => .failed left

/-- The place of a match in a text, as offsets of its first character and past its last. -/
structure Match where
  start : Nat
  stop : Nat
  deriving Repr, DecidableEq

/-- A pattern with the number of its groups. -/
structure Pattern where
  root : Node
  groups : Nat
  deriving Repr, DecidableEq

namespace Pattern

/-- The end of the first match at a position. -/
def matchAt? (pattern : Pattern) (cursor : Cursor) : Option Nat :=
  let unset := List.replicate (pattern.groups + 1) none
  (pattern.root.run none ⟨cursor, cursor, unset, unset⟩ settle).state?.map (·.cursor.offset)

/--
The first match from one of a number of positions on; `ahead` is what the first of them has ahead
of it.
-/
def searchFrom? (pattern : Pattern) : Nat → List Char → Nat → List Char → Option Match
  | 0, _, _, _ => none
  | limit + 1, behind, offset, ahead =>
      match pattern.matchAt? ⟨behind, ahead, offset⟩ with
      | some stop => some ⟨offset, stop⟩
      | none =>
          match ahead with
          | [] => none
          | c :: rest => pattern.searchFrom? limit (c :: behind) (offset + 1) rest

/--
The number of positions at which a match is sought in a text of some length. Where it is not plain
which characters a match can start with, the last positions are left out from which too few
characters follow.
-/
def positions (pattern : Pattern) (length : Nat) : Nat :=
  let least := pattern.root.width.least
  if length < least then 0
  else if pattern.root.hasPlainStart then length + 1
  else length + 1 - (least - 1)

/-- The first match in a text. -/
def search? (pattern : Pattern) (text : List Char) : Option Match :=
  pattern.searchFrom? (pattern.positions text.length) [] 0 text

/-- Whether a text holds a match. -/
def occursIn (pattern : Pattern) (text : List Char) : Bool :=
  (pattern.search? text).isSome

/-- The pattern that matches exactly a text. -/
def literal (text : List Char) : Pattern :=
  ⟨Node.ofText text, 0⟩

end Pattern

end BlockSync.Regex
