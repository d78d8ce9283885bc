import BlockSync.Regex.Escape
import BlockSync.Regex.Matcher
import BlockSync.Text.Identifier

namespace BlockSync.Regex

/-!
# Reading patterns

A pattern is a choice between sequences of items, each with an optional repetition. Every call
below takes one unit of fuel and every second one takes a token, so fuel in proportion to the
length of the pattern is enough.
-/

/-- What an item of a sequence is, as far as a repetition after it is concerned. -/
inductive ItemKind where
  | ordinary
  | place
  | repetition
  deriving Repr, DecidableEq

/-- A part of a sequence; a sealed one stands under options of its own. -/
structure Part where
  node : Node
  isSealed : Bool
  deriving Repr, DecidableEq

/-- An item of a sequence. A group that does nothing but hold parts together is its parts. -/
structure Item where
  parts : List Part
  kind : ItemKind

/-- The item that is one part. -/
def Item.ofNode (node : Node) (kind : ItemKind) : Item := ⟨[⟨node, false⟩], kind⟩

namespace Part

/-- The pattern of some parts one after another. -/
def join (parts : List Part) : Node := Node.ofList (parts.map (·.node))

/-- Whether a part is a single step, so that it can be told whether two of them are the same. -/
def isStep (part : Part) : Bool :=
  !part.isSealed &&
    match part.node with
    | .char _ | .place _ | .backReference .. => true
    | _ => false

/-- The number of steps with which a list of parts and some others all start. -/
def sharedSteps : List Part → List (List Part) → Nat
  | [], _ => 0
  | part :: rest, others =>
      if part.isStep && others.all fun other => other.head? == some part then
        sharedSteps rest (others.map List.tail) + 1
      else
        0

/-- The items of the set that a list of parts amounts to, if it is one such character. -/
def setItems? : List Part → Option (List SetItem)
  | [⟨.char (.literal _ false code), false⟩] => some [.one code]
  | [⟨.char (.set _ false items), false⟩] => some items
  | _ => none

/--
The parts of a choice: the steps with which all alternatives start, and then a set where only
single characters are left to choose from, or else the alternatives.
-/
def ofAlternatives (casing : Casing) : List (List Part) → List Part
  | [] => []
  | [single] => single
  | first :: others =>
      let shared := sharedSteps first others
      let rests := (first :: others).map (·.drop shared)
      let node := match rests.mapM setItems? with
        | some items => .char (.ofItems casing false items.flatten.eraseDups)
        | none => Node.ofAlternatives (rests.map join)
      first.take shared ++ [⟨node, false⟩]

end Part

/-- How letters are compared under some options. -/
def casingOf (flags : List Flag) : Casing :=
  if !flags.contains .ignoreCase then .exact
  else if flags.contains .ascii then .ascii
  else .unicode

/-- The greatest number of groups, and one more. -/
def groupLimit : Nat := 1073741823

namespace Reader

/-- Whether a set goes on as a range, and the item read after its first part. -/
def setRange
    (asciiOnly : Bool)
    (first : Token)
    (firstItem : SetItem)
    (here : Nat) :
    Reader (List SetItem × Bool) := do
  match ← take with
  | none => fail .unterminatedSet ((← position) - here)
  | some (.plain ']') => return ([firstItem, .one '-'.toNat], true)
  | some last =>
      let lastItem ← match last with
        | .escaped c => setEscape asciiOnly c
        | .plain c => pure (.one c.toNat)
      let refuse := fail (.badRange first.text last.text)
        (first.chars.length + 1 + last.chars.length)
      match firstItem, lastItem with
      | .one low, .one high => if high < low then refuse else return ([.span low high], false)
      | _, _ => refuse

/-- The items of a set up to its closing bracket; `here` is where the set starts. -/
def setItems (asciiOnly : Bool) (here : Nat) : Nat → List SetItem → Reader (List SetItem)
  | 0, _ => fail .endOfPattern 0
  | fuel + 1, items => do
      match ← take with
      | none => fail .unterminatedSet ((← position) - here)
      | some token =>
          if token = .plain ']' && !items.isEmpty then
            return items
          else
            let item ← match token with
              | .escaped c => setEscape asciiOnly c
              | .plain c => pure (.one c.toNat)
            if ← accept '-' then
              let (more, closed) ← setRange asciiOnly token item here
              if closed then return items ++ more
              else setItems asciiOnly here fuel (items ++ more)
            else
              setItems asciiOnly here fuel (items ++ [item])

/-- A set, after its opening bracket. -/
def set (flags : List Flag) : Reader Node := do
  let here := (← position) - 1
  let negated ← accept '^'
  let items ← setItems (flags.contains .ascii) here (← tokenLimit) []
  return match items.eraseDups with
    | [.one code] => .char (.ofLiteral (casingOf flags) negated code)
    | distinct => .char (.ofItems (casingOf flags) negated distinct)

/-- A number of repetitions. -/
def repeatCount (digits : List Char) : Reader Nat := do
  if Text.digitLimit < digits.length then failAt (.repeatTooLong digits.length) none
  let count := valueOfDigits 10 digits
  if repeatLimit ≤ count then failAt .repeatTooLarge none
  return count

/-- The bounds between braces, or nothing if the brace stands for itself. -/
def braceBounds? (here : Nat) : Reader (Option (Nat × Option Nat)) := do
  if (← peek) = some (.plain '\x7d') then
    return none
  let start ← get
  let limit ← tokenLimit
  let low ← takeWhile Char.isDigit limit
  let high ← if ← accept ',' then takeWhile Char.isDigit limit else pure low
  if !(← accept '\x7d') then
    MonadStateOf.set start
    return none
  let least ← repeatCount low
  if high.isEmpty then
    return some (least, none)
  let greatest ← repeatCount high
  if greatest < least then fail .repeatBounds ((← position) - here)
  return some (least, some greatest)

/-- The mark that may follow a repetition. A question mark leaves a plus behind it alone. -/
def repeatMode : Reader RepeatMode := do
  if ← accept '?' then
    return .reluctant
  if ← accept '+' then
    return .possessive
  return .greedy

/-- Repeats the last item of a sequence, which is given last item first. -/
def repetition
    (least : Nat)
    (greatest : Option Nat)
    (here : Nat)
    (items : List Item) :
    Reader (List Item) := do
  match items with
  | [] => fail .nothingToRepeat ((← position) - here + 1)
  | item :: others =>
      match item.kind with
      | .place => fail .nothingToRepeat ((← position) - here + 1)
      | .repetition => fail .multipleRepeat ((← position) - here + 1)
      | .ordinary =>
          let mode ← repeatMode
          return .ofNode (.loop mode least greatest (Part.join item.parts)) .repetition :: others

/-- Skips a comment up to its closing parenthesis. -/
def skipComment (start : Nat) : Nat → Reader Unit
  | 0 => fail .endOfPattern 0
  | fuel + 1 => do
      match ← take with
      | none => fail .unterminatedComment ((← position) - start)
      | some (.plain ')') => return ()
      | some _ => skipComment start fuel

/-- Skips the rest of a line. -/
def skipLine : Nat → Reader Unit
  | 0 => return ()
  | fuel + 1 => do
      match ← take with
      | none => return ()
      | some (.plain '\n') => return ()
      | some _ => skipLine fuel

/-- Refuses a group name that is no identifier. -/
def checkGroupName (name : List Char) : Reader Unit := do
  if !Text.isIdentifier name then
    fail (.badGroupName (String.ofList name)) (name.length + 1)

/-- The complete group with a name. -/
def groupNamed (name : List Char) : Reader Nat := do
  match (← get).names.lookup (String.ofList name) with
  | some index => return index
  | none => fail (.unknownGroup (String.ofList name)) (name.length + 1)

/-- Begins a group and answers its number. -/
def openGroup (name? : Option (List Char)) : Reader Nat := do
  let progress ← get
  let index := progress.groups.length
  MonadStateOf.set { progress with groups := progress.groups ++ [none] }
  match name? with
  | none => return index
  | some name =>
      match progress.names.lookup (String.ofList name) with
      | some earlier =>
          fail (.redefinedGroup (String.ofList name) index earlier) (name.length + 1)
      | none =>
          modify fun progress =>
            { progress with names := progress.names ++ [(String.ofList name, index)] }
          return index

/-- Completes a group. -/
def closeGroup (index : Nat) (body : Node) : Reader Unit :=
  modify fun progress => { progress with groups := progress.groups.set index (some body.width) }

/-- The letters that switch options on, from a given one to the mark that ends them. -/
def switchedOn : Nat → List Flag → Char → Reader (List Flag × Char)
  | 0, _, _ => fail .endOfPattern 0
  | fuel + 1, flags, letter => do
      match Flag.ofChar? letter with
      | none => fail .unknownFlag 1
      | some flag =>
          if flag = .locale then fail .localeFlag 0
          let flags := if flags.contains flag then flags else flags ++ [flag]
          if flag.selectsClasses && flags.any (fun other => other.selectsClasses && other != flag)
          then fail .incompatibleFlags 0
          match ← take with
          | none => fail .expectedFlagEnd 0
          | some token =>
              match token with
              | .plain ')' => return (flags, ')')
              | .plain '-' => return (flags, '-')
              | .plain ':' => return (flags, ':')
              | .plain c =>
                  if (Flag.ofChar? c).isSome then switchedOn fuel flags c
                  else if Text.isLetter c then fail .unknownFlag 1
                  else fail .expectedFlagEnd 1
              | .escaped _ => fail .expectedFlagEnd 2

/-- The letters that switch options off, from a given one to the colon that ends them. -/
def switchedOff : Nat → List Flag → Char → Reader (List Flag)
  | 0, _, _ => fail .endOfPattern 0
  | fuel + 1, flags, letter => do
      match Flag.ofChar? letter with
      | none => fail .unknownFlag 1
      | some flag =>
          if flag.selectsClasses then fail .characterSetFlagOff 0
          let flags := flags ++ [flag]
          match ← take with
          | none => fail .expectedColon 0
          | some (.plain ':') => return flags
          | some (.plain c) =>
              if (Flag.ofChar? c).isSome then switchedOff fuel flags c
              else if Text.isLetter c then fail .unknownFlag 1
              else fail .expectedColon 1
          | some (.escaped _) => fail .expectedColon 2

/-- What a group of option letters asks for. -/
inductive FlagGroup where
  | global
  | scoped (switchedOn switchedOff : List Flag)

/-- The option letters of a group, from a given one on. -/
def flagGroup (letter : Char) : Reader FlagGroup := do
  let limit ← tokenLimit
  let (on, mark) ← if letter = '-' then pure ([], '-') else switchedOn limit [] letter
  if mark = ')' then
    modify fun progress => { progress with flags := progress.flags ++ on }
    return .global
  if on.contains .template then fail .globalFlagOn 1
  let off ←
    if mark = '-' then do
      match ← take with
      | none => fail .missingFlag 0
      | some (.plain c) =>
          if (Flag.ofChar? c).isSome then switchedOff limit [] c
          else if Text.isLetter c then fail .unknownFlag 1
          else fail .missingFlag 1
      | some (.escaped _) => fail .missingFlag 2
    else
      pure []
  if off.contains .template then fail .globalFlagOff 1
  if on.any (off.contains ·) then fail .flagOnAndOff 1
  return .scoped on off

/-- The group that a condition on a group refers to. -/
def conditionGroup : Reader Nat := do
  let name ← takeName ')' .group (← tokenLimit) []
  if Text.isIdentifier name then
    groupNamed name
  else
    match Text.integer? name with
    | none => fail (.badGroupName (String.ofList name)) (name.length + 1)
    | some index =>
        if index < 0 then fail (.badGroupName (String.ofList name)) (name.length + 1)
        if index = 0 then fail .badGroupNumber (name.length + 1)
        let index := index.toNat
        if groupLimit ≤ index then fail (.invalidGroup index) (name.length + 1)
        let place := (← position) - name.length - 1
        modify fun progress =>
          if progress.expectedGroups.any (·.1 == index) then progress
          else { progress with expectedGroups := progress.expectedGroups ++ [(index, place)] }
        return index

/-- What a group is, once its opening has been read. -/
inductive GroupOpening where
  | item (item : Item)
  | nothing
  | globalFlags
  | capturing (name? : Option (List Char))
  | plain
  | scoped (flags : List Flag)
  | atomic
  | lookAround (behind negated : Bool)
  | conditional (index : Nat)

/-- The opening of a group, after its parenthesis; `start` is where that stands. -/
def groupOpening (flags : List Flag) (start : Nat) : Reader GroupOpening := do
  if !(← accept '?') then
    return .capturing none
  match ← take with
  | none => fail .endOfPattern 0
  | some (.escaped c) =>
      fail (.unknownExtension (String.ofList ['\\', c])) 3
  | some (.plain 'P') =>
      if ← accept '<' then
        let name ← takeName '>' .group (← tokenLimit) []
        checkGroupName name
        return .capturing (some name)
      else if ← accept '=' then
        let name ← takeName ')' .group (← tokenLimit) []
        checkGroupName name
        let index ← groupNamed name
        let node ← backReference (casingOf flags) index (name.length + 1)
        return .item (.ofNode node .ordinary)
      else
        match ← take with
        | none => fail .endOfPattern 0
        | some token => fail (.unknownExtension ("P" ++ token.text)) (token.chars.length + 2)
  | some (.plain ':') => return .plain
  | some (.plain '#') =>
      skipComment start (← tokenLimit)
      return .nothing
  | some (.plain '=') => return .lookAround false false
  | some (.plain '!') => return .lookAround false true
  | some (.plain '<') =>
      match ← take with
      | none => fail .endOfPattern 0
      | some (.plain '=') => return .lookAround true false
      | some (.plain '!') => return .lookAround true true
      | some token => fail (.unknownExtension ("<" ++ token.text)) (token.chars.length + 2)
  | some (.plain '(') => return .conditional (← conditionGroup)
  | some (.plain '>') => return .atomic
  | some (.plain c) =>
      if c = '-' || (Flag.ofChar? c).isSome then
        match ← flagGroup c with
        | .global => return .globalFlags
        | .scoped on off => return .scoped (Flag.combine flags on off)
      else
        fail (.unknownExtension (String.ofList [c])) 2

/-- Requires the parenthesis that closes a group which starts at `start`. -/
def closing (start : Nat) : Reader Unit := do
  if !(← accept ')') then
    fail .unterminatedGroup ((← position) - start)

/-- Where a sequence stands: at the top of a pattern, and if so, whether it comes first. -/
inductive Nesting where
  | inner
  | topFirst
  | topLater
  deriving DecidableEq

mutual

/-- Sequences to choose from. Options set for the whole pattern hold at the top. -/
def alternatives : Nat → List Flag → Nesting → Reader (List (List Part))
  | 0, _, _ => fail .endOfPattern 0
  | fuel + 1, flags, nesting => do
      let first ← sequence fuel flags nesting []
      if ← accept '|' then
        let progress ← get
        let flags := if nesting = .inner then flags else progress.flags
        let nesting := if nesting = .inner then .inner else .topLater
        return first :: (← alternatives fuel flags nesting)
      else
        return [first]

/-- A sequence of items; those already read are given last item first. -/
def sequence : Nat → List Flag → Nesting → List Item → Reader (List Part)
  | 0, _, _, _ => fail .endOfPattern 0
  | fuel + 1, flags, nesting, items => do
      let ended := items.reverse.flatMap (·.parts)
      let goOn := fun (node : Node) (kind : ItemKind) =>
        sequence fuel flags nesting (.ofNode node kind :: items)
      let ordinary := fun (test : CharTest) => goOn (.char test) .ordinary
      let inside := fun (flags : List Flag) => do
        return Part.ofAlternatives (casingOf flags) (← alternatives fuel flags .inner)
      match ← peek with
      | none => return ended
      | some (.plain '|') => return ended
      | some (.plain ')') => return ended
      | some token =>
          let _ ← take
          match token with
          | .escaped c =>
              let node ← escape (flags.contains .ascii) (casingOf flags) c
              let kind := match node with
                | .place _ => .place
                | _ => .ordinary
              goOn node kind
          | .plain c =>
              if flags.contains .verbose && Text.isAsciiBlank c then
                sequence fuel flags nesting items
              else if flags.contains .verbose && c = '#' then
                skipLine (← tokenLimit)
                sequence fuel flags nesting items
              else
                match c with
                | '[' =>
                    goOn (← set flags) .ordinary
                | '.' =>
                    ordinary (if flags.contains .dotAll then .anything else .notLineFeed)
                | '^' =>
                    let place := if flags.contains .multiLine then .lineStart else .textStart
                    goOn (.place place) .place
                | '$' =>
                    let place := if flags.contains .multiLine then .lineEnd else .finalLineEnd
                    goOn (.place place) .place
                | '?' =>
                    let items ← repetition 0 (some 1) (← position) items
                    sequence fuel flags nesting items
                | '*' =>
                    let items ← repetition 0 none (← position) items
                    sequence fuel flags nesting items
                | '+' =>
                    let items ← repetition 1 none (← position) items
                    sequence fuel flags nesting items
                | '\x7b' =>
                    let here ← position
                    match ← braceBounds? here with
                    | none => ordinary (.ofLiteral (casingOf flags) false c.toNat)
                    | some (least, greatest) =>
                        let items ← repetition least greatest here items
                        sequence fuel flags nesting items
                | '(' =>
                    let start := (← position) - 1
                    match ← groupOpening flags start with
                    | .item item => sequence fuel flags nesting (item :: items)
                    | .nothing => sequence fuel flags nesting items
                    | .globalFlags =>
                        if nesting ≠ .topFirst || !items.isEmpty then
                          fail .misplacedGlobalFlags ((← position) - start)
                        let progress ← get
                        sequence fuel progress.flags nesting items
                    | .capturing name? =>
                        let index ← openGroup name?
                        let body := Part.join (← inside flags)
                        closing start
                        closeGroup index body
                        goOn (.group index body) .ordinary
                    | .plain =>
                        let parts ← inside flags
                        closing start
                        sequence fuel flags nesting (⟨parts, .ordinary⟩ :: items)
                    | .scoped inner =>
                        let body := Part.join (← inside inner)
                        closing start
                        sequence fuel flags nesting (⟨[⟨body, true⟩], .ordinary⟩ :: items)
                    | .atomic =>
                        let body := Part.join (← inside flags)
                        closing start
                        goOn (.atomic body) .ordinary
                    | .lookAround false negated =>
                        let body := Part.join (← inside flags)
                        closing start
                        goOn (.lookAhead negated body) .ordinary
                    | .lookAround true negated =>
                        let outer := (← get).lookBehindGroups
                        if outer.isNone then
                          modify fun progress =>
                            { progress with lookBehindGroups := some progress.groups.length }
                        let body := Part.join (← inside flags)
                        if outer.isNone then
                          modify fun progress => { progress with lookBehindGroups := none }
                        closing start
                        goOn (.lookBehind negated body.width.least body) .ordinary
                    | .conditional index =>
                        checkLookBehindGroup index
                        let whenSet ← sequence fuel flags .inner []
                        let whenUnset ←
                          if ← accept '|' then do
                            let parts ← sequence fuel flags .inner []
                            if (← peek) = some (.plain '|') then fail .tooManyBranches 0
                            pure parts
                          else
                            pure []
                        closing start
                        let node := Node.conditional index (Part.join whenSet) (Part.join whenUnset)
                        goOn node .ordinary
                | _ => ordinary (.ofLiteral (casingOf flags) false c.toNat)

end

end Reader

/--
The first part of a pattern, outermost first, that cannot be used: a look-behind without one fixed
length, or a repetition in a pattern marked as a template.
-/
def Node.defect? (isTemplate : Bool) : Node → Option Cause
  | .empty | .never | .char _ | .place _ | .backReference .. => none
  | .seq first second | .alt first second | .conditional _ first second =>
      (first.defect? isTemplate).or (second.defect? isTemplate)
  | .group _ body | .lookAhead _ body | .atomic body => body.defect? isTemplate
  | .lookBehind _ _ body =>
      if body.width.least ≠ body.width.greatest then some .variableLookBehind
      else body.defect? isTemplate
  | .loop mode _ _ body =>
      if isTemplate then some (.templateRepeat mode) else body.defect? isTemplate

/-- The greatest number of characters that a look-behind can go back, and one more. -/
def lookBehindLimit : Nat := 2147483648

/-- Whether a look-behind in a pattern goes back too many characters. -/
def Node.looksTooFar : Node → Bool
  | .empty | .never | .char _ | .place _ | .backReference .. => false
  | .seq first second | .alt first second | .conditional _ first second =>
      first.looksTooFar || second.looksTooFar
  | .group _ body | .lookAhead _ body | .atomic body | .loop _ _ _ body => body.looksTooFar
  | .lookBehind _ distance body => lookBehindLimit ≤ distance || body.looksTooFar

/-- The whole of a pattern. -/
def Reader.pattern : Reader Pattern := do
  let length := (← get).pattern.length
  let sequences ← alternatives (4 * length + 8) [] .topFirst
  let progress ← get
  let root := Part.join (Part.ofAlternatives (casingOf progress.flags) sequences)
  if progress.flags.contains .ascii && progress.flags.contains .unicode then
    failAt .asciiAndUnicode none
  if progress.token.isSome then fail .unbalancedParenthesis 0
  for (index, place) in progress.expectedGroups do
    if progress.groups.length ≤ index then failAt (.invalidGroup index) (some place)
  match root.defect? (progress.flags.contains .template) with
  | some cause => failAt cause none
  | none =>
      if root.looksTooFar then failAt .wideLookBehind none
      return ⟨root, progress.groups.length - 1⟩

/-- The pattern that a text describes. -/
def Pattern.parse (text : String) : Except Error Pattern := do
  let progress ← Progress.start text.toList
  let (pattern, _) ← Reader.pattern.run progress
  return pattern

end BlockSync.Regex
