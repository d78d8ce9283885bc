import BlockSync.Proofs.Regex.Search
import BlockSync.Regex.Parser

namespace BlockSync.Regex

/-!
# Escaped texts

In an escaped text a backslash stands in front of every character that could mean something else
in a pattern.  The reader makes a chain of exact literals of it, one for each character, whatever
the text holds.  A chain of literals and the tree of a plain word match alike.
-/

/-- The characters in front of which a backslash is put. -/
def specials : List Char :=
  ['(', ')', '[', ']', '\x7b', '\x7d', '?', '*', '+', '-', '|', '^', '$', '\\', '.', '&', '~', '#',
    ' ', '\t', '\n', '\r', '\x0b', '\x0c']

/-- A text with a backslash in front of every character that could mean something else. -/
def escaped (text : List Char) : List Char :=
  text.flatMap fun c => if c ∈ specials then ['\\', c] else [c]

/-- The characters that do not stand for themselves where a pattern has no options. -/
def metacharacters : List Char :=
  ['\\', '|', ')', '[', '.', '^', '$', '?', '*', '+', '\x7b', '(']

/-- Whether a pattern spells a text, with a backslash in front of some of its characters. -/
inductive Spells : List Char → List Char → Prop where
  | nil : Spells [] []
  | plain {c : Char} {source text : List Char} :
      c ∉ metacharacters → Spells source text → Spells (c :: source) (c :: text)
  | escaped {c : Char} {source text : List Char} :
      c.isAlphanum = false → Spells source text → Spells ('\\' :: c :: source) (c :: text)

/-- A character other than a backslash is a token of its own. -/
theorem nextToken_of_ne
    {c : Char}
    (different : c ≠ '\\')
    (pattern rest : List Char) :
    nextToken pattern (c :: rest) = .ok (some (.plain c), rest) := by
  unfold nextToken
  split <;> simp_all

/-- A backslash and the character behind it are one token. -/
theorem nextToken_escaped
    (c : Char)
    (pattern rest : List Char) :
    nextToken pattern ('\\' :: c :: rest) = .ok (some (.escaped c), rest) :=
  rfl

/-- The pattern that matches exactly a character. -/
def Node.exactly (c : Char) : Node :=
  .char (.literal .exact false c.toNat)

/-- A pattern that can be used where no options are set. -/
structure Node.IsSound (node : Node) : Prop where
  defectless :
    node.defect? false = none
  near :
    node.looksTooFar = false

namespace Spells

/-- No special character is a letter or a digit. -/
theorem isAlphanum_of_mem_specials
    {c : Char}
    (special : c ∈ specials) :
    c.isAlphanum = false := by
  have all : specials.all (fun c => !c.isAlphanum) = true := by
    decide
  simpa using List.all_eq_true.mp all c special

/-- Every character that does not stand for itself is special. -/
theorem mem_specials_of_mem_metacharacters
    {c : Char}
    (isMeta : c ∈ metacharacters) :
    c ∈ specials := by
  have all : metacharacters.all (specials.contains ·) = true := by
    decide
  simpa using List.all_eq_true.mp all c isMeta

/-- An escaped text spells the text. -/
theorem of_escaped (text : List Char) : Spells (Regex.escaped text) text := by
  induction text with
  | nil =>
      exact .nil
  | cons c rest inductionHypothesis =>
      rw [Regex.escaped, List.flatMap_cons]
      split
      · next special =>
        exact .escaped (isAlphanum_of_mem_specials special) inductionHypothesis
      · next notSpecial =>
        exact .plain (fun isMeta => notSpecial (mem_specials_of_mem_metacharacters isMeta))
          inductionHypothesis

/-- What spells two texts one after the other. -/
theorem append
    {source text otherSource otherText : List Char}
    (spells : Spells source text)
    (otherSpells : Spells otherSource otherText) :
    Spells (source ++ otherSource) (text ++ otherText) := by
  induction spells with
  | nil =>
      exact otherSpells
  | plain plain _ inductionHypothesis =>
      exact .plain plain inductionHypothesis
  | escaped notAlphanum _ inductionHypothesis =>
      exact .escaped notAlphanum inductionHypothesis

/-- A pattern has at least as many characters as the text that it spells. -/
theorem length_le
    {source text : List Char}
    (spells : Spells source text) :
    text.length ≤ source.length := by
  induction spells with
  | nil =>
      exact Nat.le_refl 0
  | plain _ _ inductionHypothesis =>
      exact Nat.succ_le_succ inductionHypothesis
  | escaped _ _ inductionHypothesis =>
      exact Nat.le_succ_of_le (Nat.succ_le_succ inductionHypothesis)

/-- No backslash is left alone where one text is spelled in front of another pattern. -/
theorem exists_nextToken
    {source text tail : List Char}
    (spells : Spells source text)
    (pattern : List Char)
    (tailAhead : ∃ token rest, nextToken pattern tail = .ok (token, rest)) :
    ∃ token rest, nextToken pattern (source ++ tail) = .ok (token, rest) := by
  cases spells with
  | nil =>
      exact tailAhead
  | plain plain _ =>
      exact ⟨_, _, nextToken_of_ne (ne_of_mem_of_not_mem List.mem_cons_self plain).symm _ _⟩
  | escaped _ _ =>
      exact ⟨_, _, rfl⟩

end Spells

/-- The progress at a token of a pattern without options and groups. -/
def Progress.before
    (pattern : List Char)
    (position : Nat)
    (token : Option Token)
    (rest : List Char) :
    Progress :=
  ⟨pattern, token, position, rest, [], [none], [], none, []⟩

namespace Reader

variable
  {pattern rest further behind : List Char}
  {position stop fuel : Nat}
  {token next : Option Token}

/-- What is read first, and what is read after it. -/
theorem run_bind_of_ok
    {α β : Type}
    {first : Reader α}
    {second : α → Reader β}
    {progress further : Progress}
    {value : α}
    (ran : first.run progress = .ok (value, further)) :
    (first >>= second).run progress = (second value).run further := by
  rw [StateT.run_bind, ran]
  rfl

/-- The token ahead can be looked at. -/
theorem run_peek :
    peek.run (.before pattern position token rest) =
      .ok (token, .before pattern position token rest) :=
  rfl

/-- The token ahead can be taken where a token or the end of the pattern comes after it. -/
theorem run_take
    {token : Token}
    (ahead : nextToken pattern rest = .ok (next, further)) :
    take.run (.before pattern position (some token) rest) =
      .ok (some token, .before pattern (position + token.chars.length) next further) := by
  simp only [take, Progress.before, StateT.run_bind, StateT.run_get, pure_bind, ahead]
  rfl

/-- A character without a meaning of its own is read as itself. -/
theorem run_sequence_plain
    {c : Char}
    (nesting : Nesting)
    (items : List Item)
    (plain : c ∉ metacharacters)
    (ahead : nextToken pattern rest = .ok (next, further)) :
    (sequence (fuel + 1) [] nesting items).run (.before pattern position (some (.plain c)) rest) =
      (sequence fuel [] nesting (.ofNode (.exactly c) .ordinary :: items)).run
        (.before pattern (position + 1) next further) := by
  simp only [metacharacters, List.mem_cons, not_or] at plain
  rw [sequence, run_bind_of_ok run_peek]
  split
  · next same => cases same
  · next same =>
    cases same
    simp at plain
  · next same =>
    cases same
    simp at plain
  · next token _ _ same =>
    cases same
    rw [run_bind_of_ok (run_take ahead)]
    simp only [List.contains_nil, Bool.false_and, Bool.false_eq_true, ↓reduceIte]
    split <;> first | rfl | simp at plain

/-- Only letters stand for a class, a place or a number of characters behind a backslash. -/
private theorem run_escape_of_notAlphanum
    {c : Char}
    (notAlphanum : c.isAlphanum = false)
    (progress : Progress) :
    placeEscape? false c = none ∧
      categoryEscape? false c = none ∧
      (codeEscape? c).run progress = .ok (none, progress) ∧
      (c ≠ '\\' → controlEscape? c = none) := by
  refine ⟨?_, ?_, ?_, fun different => ?_⟩
  · unfold placeEscape?
    split <;> first | rfl | exact absurd notAlphanum (by decide)
  · unfold categoryEscape?
    split <;> first | rfl | exact absurd notAlphanum (by decide)
  · unfold codeEscape?
    split <;> first | rfl | exact absurd notAlphanum (by decide)
  · unfold controlEscape?
    split <;> first | rfl | exact absurd rfl different | exact absurd notAlphanum (by decide)

/-- A character behind a backslash is itself, unless it is a letter or a digit. -/
theorem run_escape
    {c : Char}
    (notAlphanum : c.isAlphanum = false)
    (progress : Progress) :
    (escape false .exact c).run progress = .ok (.exactly c, progress) := by
  by_cases isBackslash : c = '\\'
  · subst isBackslash
    rfl
  · obtain ⟨noPlace, noCategory, noCode, control⟩ :=
      run_escape_of_notAlphanum notAlphanum progress
    have notZero : c ≠ '0' := by
      rintro rfl
      exact absurd notAlphanum (by decide)
    have notDigit : c.isDigit = false := by
      rw [Char.isAlphanum, Bool.or_eq_false_iff] at notAlphanum
      exact notAlphanum.2
    rw [escape, noPlace, noCategory, control isBackslash]
    simp only
    rw [run_bind_of_ok noCode]
    simp only [notZero, notDigit, ↓reduceIte, plainEscape, notAlphanum]
    rfl

/-- A character behind a backslash is read as itself, unless it is a letter or a digit. -/
theorem run_sequence_escaped
    {c : Char}
    (nesting : Nesting)
    (items : List Item)
    (notAlphanum : c.isAlphanum = false)
    (ahead : nextToken pattern rest = .ok (next, further)) :
    (sequence (fuel + 1) [] nesting items).run (.before pattern position (some (.escaped c)) rest) =
      (sequence fuel [] nesting (.ofNode (.exactly c) .ordinary :: items)).run
        (.before pattern (position + 2) next further) := by
  rw [sequence, run_bind_of_ok run_peek]
  simp only
  rw [run_bind_of_ok (run_take ahead)]
  exact run_bind_of_ok (run_escape notAlphanum _)

/-- What spells a text is read as a chain of exact literals, in front of whatever comes after it. -/
theorem run_sequence_of_spells
    {source text tail tailRest : List Char}
    {tailToken : Option Token}
    (spells : Spells source text)
    (tailAhead : nextToken pattern tail = .ok (tailToken, tailRest))
    (ahead : nextToken pattern (source ++ tail) = .ok (token, rest))
    (nesting : Nesting)
    (items : List Item) :
    (sequence (text.length + fuel) [] nesting items).run (.before pattern position token rest) =
      (sequence fuel [] nesting
          ((text.map fun c => Item.ofNode (.exactly c) .ordinary).reverse ++ items)).run
        (.before pattern (position + source.length) tailToken tailRest) := by
  induction spells generalizing position token rest items with
  | nil =>
      rw [List.nil_append, tailAhead] at ahead
      cases ahead
      simp
  | @plain c source text plain spells inductionHypothesis =>
      obtain ⟨next, further, sourceAhead⟩ := spells.exists_nextToken pattern ⟨_, _, tailAhead⟩
      rw [List.cons_append,
        nextToken_of_ne (ne_of_mem_of_not_mem List.mem_cons_self plain).symm] at ahead
      cases ahead
      rw [List.length_cons, Nat.add_right_comm, run_sequence_plain nesting items plain sourceAhead,
        inductionHypothesis sourceAhead]
      simp [Nat.add_assoc, Nat.add_comm 1]
  | @escaped c source text notAlphanum spells inductionHypothesis =>
      obtain ⟨next, further, sourceAhead⟩ := spells.exists_nextToken pattern ⟨_, _, tailAhead⟩
      rw [List.cons_append, List.cons_append, nextToken_escaped] at ahead
      cases ahead
      rw [List.length_cons, Nat.add_right_comm,
        run_sequence_escaped nesting items notAlphanum sourceAhead,
        inductionHypothesis sourceAhead]
      simp [Nat.add_assoc, Nat.add_comm 2]

/-- A sequence ends where the pattern does, at a bar, and at a closing parenthesis. -/
theorem run_sequence_stop
    (stops : token = none ∨ token = some (.plain '|') ∨ token = some (.plain ')'))
    (nesting : Nesting)
    (items : List Item) :
    (sequence (fuel + 1) [] nesting items).run (.before pattern position token rest) =
      .ok (items.reverse.flatMap (·.parts), .before pattern position token rest) := by
  rw [sequence, run_bind_of_ok run_peek]
  rcases stops with rfl | rfl | rfl <;> rfl

/-- A character that is ahead is taken. -/
theorem run_accept_self
    {c : Char}
    (ahead : nextToken pattern rest = .ok (next, further)) :
    (accept c).run (.before pattern position (some (.plain c)) rest) =
      .ok (true, .before pattern (position + 1) next further) := by
  rw [accept, run_bind_of_ok run_peek, if_pos rfl, run_bind_of_ok (run_take ahead)]
  rfl

/-- A character that is not ahead is not taken. -/
theorem run_accept_of_ne
    {c : Char}
    (different : token ≠ some (.plain c)) :
    (accept c).run (.before pattern position token rest) =
      .ok (false, .before pattern position token rest) := by
  rw [accept, run_bind_of_ok run_peek, if_neg different]
  rfl

/-- A choice goes on behind a bar. -/
theorem run_alternatives_bar
    {parts : List Part}
    {others : List (List Part)}
    {progress final : Progress}
    (ran :
      (sequence fuel [] .inner []).run progress =
        .ok (parts, .before pattern position (some (.plain '|')) rest))
    (ahead : nextToken pattern rest = .ok (next, further))
    (othersRan :
      (alternatives fuel [] .inner).run (.before pattern (position + 1) next further) =
        .ok (others, final)) :
    (alternatives (fuel + 1) [] .inner).run progress = .ok (parts :: others, final) := by
  rw [alternatives, run_bind_of_ok ran, run_bind_of_ok (run_accept_self ahead), if_pos rfl]
  refine (run_bind_of_ok (StateT.run_get _)).trans ?_
  exact run_bind_of_ok othersRan

/-- A choice ends where its last sequence does not end at a bar. -/
theorem run_alternatives_last
    {parts : List Part}
    {progress : Progress}
    {nesting : Nesting}
    (ran :
      (sequence fuel [] nesting []).run progress =
        .ok (parts, .before pattern position token rest))
    (different : token ≠ some (.plain '|')) :
    (alternatives (fuel + 1) [] nesting).run progress =
      .ok ([parts], .before pattern position token rest) := by
  rw [alternatives, run_bind_of_ok ran, run_bind_of_ok (run_accept_of_ne different)]
  rfl

/-- The position of the token ahead is known. -/
theorem run_position :
    Reader.position.run (.before pattern position token rest) =
      .ok (position, .before pattern position token rest) :=
  rfl

/-- A question mark and a colon open a group that only holds its parts together. -/
theorem run_groupOpening
    {body : List Char}
    {start : Nat}
    (bodyAhead : nextToken pattern body = .ok (token, rest)) :
    (groupOpening [] start).run
        (.before pattern position (some (.plain '?')) (':' :: body)) =
      .ok (.plain, .before pattern (position + 2) token rest) := by
  rw [groupOpening,
    run_bind_of_ok (run_accept_self (nextToken_of_ne (by decide) _ _))]
  exact run_bind_of_ok (run_take bodyAhead)

/-- A parenthesis that is ahead closes a group. -/
theorem run_closing
    {start : Nat}
    (ahead : nextToken pattern rest = .ok (next, further)) :
    (closing start).run (.before pattern position (some (.plain ')')) rest) =
      .ok ((), .before pattern (position + 1) next further) := by
  exact run_bind_of_ok (run_accept_self ahead)

/-- A group that only holds its parts together is its parts. -/
theorem run_sequence_group
    {body : List Char}
    {sequences : List (List Part)}
    (bodyAhead : nextToken pattern body = .ok (token, rest))
    (ran :
      (alternatives fuel [] .inner).run (.before pattern (position + 3) token rest) =
        .ok (sequences, .before pattern stop (some (.plain ')')) behind))
    (ahead : nextToken pattern behind = .ok (next, further))
    (nesting : Nesting)
    (items : List Item) :
    (sequence (fuel + 1) [] nesting items).run
        (.before pattern position (some (.plain '(')) ('?' :: ':' :: body)) =
      (sequence fuel [] nesting
          (⟨Part.ofAlternatives .exact sequences, .ordinary⟩ :: items)).run
        (.before pattern (stop + 1) next further) := by
  rw [sequence, run_bind_of_ok run_peek]
  refine (run_bind_of_ok (run_take (nextToken_of_ne (by decide) _ _))).trans ?_
  refine (run_bind_of_ok run_position).trans ?_
  refine (run_bind_of_ok (run_groupOpening bodyAhead)).trans ?_
  refine (run_bind_of_ok (run_bind_of_ok ran)).trans ?_
  refine (run_bind_of_ok (run_closing ahead)).trans ?_
  rfl

/-- What ends a word in a pattern is read as such. -/
theorem run_sequence_wordEnd
    (fuel : Nat)
    (nesting : Nesting)
    (items : List Item) :
    (sequence (fuel + 5) [] nesting items).run
        (.before pattern position (some (.plain '(')) "?:\\s|$)".toList) =
      .ok (items.reverse.flatMap (·.parts) ++ [⟨wordEnd, false⟩],
        .before pattern (position + 8) none []) := by
  have blank :
      (sequence (fuel + 3) [] .inner []).run
          (.before pattern (position + 3) (some (.escaped 's')) "|$)".toList) =
        .ok ([⟨.char (.set .exact false [.category ⟨.blank, false, false⟩]), false⟩],
          .before pattern (position + 5) (some (.plain '|')) "$)".toList) := by
    rw [sequence, run_bind_of_ok run_peek]
    refine (run_bind_of_ok (run_take (nextToken_of_ne (by decide) _ _))).trans ?_
    exact run_sequence_stop (.inr (.inl rfl)) _ _
  have lineEnd :
      (sequence (fuel + 2) [] .inner []).run
          (.before pattern (position + 6) (some (.plain '$')) ")".toList) =
        .ok ([⟨.place .finalLineEnd, false⟩],
          .before pattern (position + 7) (some (.plain ')')) []) := by
    rw [sequence, run_bind_of_ok run_peek]
    refine (run_bind_of_ok (run_take (nextToken_of_ne (by decide) _ _))).trans ?_
    exact run_sequence_stop (.inr (.inr rfl)) _ _
  have body :
      (alternatives (fuel + 4) [] .inner).run
          (.before pattern (position + 3) (some (.escaped 's')) "|$)".toList) =
        .ok ([[⟨.char (.set .exact false [.category ⟨.blank, false, false⟩]), false⟩],
            [⟨.place .finalLineEnd, false⟩]],
          .before pattern (position + 7) (some (.plain ')')) []) :=
    run_alternatives_bar blank (nextToken_of_ne (by decide) _ _)
      (run_alternatives_last lineEnd (by decide))
  refine (run_sequence_group (nextToken_escaped 's' _ _) body rfl nesting items).trans ?_
  rw [run_sequence_stop (.inl rfl)]
  simp
  rfl

/-- A pattern that is one sequence of sound parts is these parts, one after another. -/
theorem run_pattern
    {parts : List Part}
    (ran :
      (sequence (4 * pattern.length + 7) [] .topFirst []).run (.before pattern 0 token rest) =
        .ok (parts, .before pattern stop none behind))
    (sound : (Part.join parts).IsSound) :
    Reader.pattern.run (.before pattern 0 token rest) =
      .ok (⟨Part.join parts, 0⟩, .before pattern stop none behind) := by
  rw [Reader.pattern]
  refine (run_bind_of_ok (StateT.run_get _)).trans ?_
  refine (run_bind_of_ok (run_alternatives_last ran (by decide))).trans ?_
  refine (run_bind_of_ok (StateT.run_get _)).trans ?_
  have whole : Part.ofAlternatives (casingOf []) [parts] = parts :=
    rfl
  simp only [Progress.before, whole, List.contains_nil, Bool.false_and, Bool.false_eq_true,
    ↓reduceIte, Option.isSome_none, sound.defectless, sound.near]
  rfl

end Reader

/-- Some sound patterns one after another are sound. -/
theorem Node.isSound_ofList
    {nodes : List Node}
    (sound : ∀ node ∈ nodes, node.IsSound) :
    (ofList nodes).IsSound := by
  induction nodes using ofList.induct with
  | case1 =>
      exact ⟨rfl, rfl⟩
  | case2 node =>
      exact sound node (List.mem_singleton_self node)
  | case3 node rest more inductionHypothesis =>
      rw [List.forall_mem_cons] at sound
      have restSound := inductionHypothesis sound.2
      rw [ofList.eq_3 node rest more]
      constructor
      · rw [defect?, sound.1.defectless, restSound.defectless]
        rfl
      · rw [looksTooFar, sound.1.near, restSound.near]
        rfl

namespace Pattern

/-- What spells a text in front of another pattern is read as a chain of exact literals. -/
theorem parse_of_spells_append
    {source text tailRest : List Char}
    {tailToken : Option Token}
    (spells : Spells source text)
    (tail : List Char)
    (last : List Part)
    (tailAhead : nextToken (source ++ tail) tail = .ok (tailToken, tailRest))
    (tailRan :
      ∀ fuel position items,
        (Reader.sequence (fuel + 5) [] .topFirst items).run
            (.before (source ++ tail) position tailToken tailRest) =
          .ok (items.reverse.flatMap (·.parts) ++ last,
            .before (source ++ tail) (position + tail.length) none []))
    (sound : ∀ part ∈ last, part.node.IsSound) :
    Pattern.parse (String.ofList (source ++ tail)) =
      .ok ⟨Node.ofList (text.map .exactly ++ last.map (·.node)), 0⟩ := by
  obtain ⟨token, rest, ahead⟩ := spells.exists_nextToken (source ++ tail) ⟨_, _, tailAhead⟩
  obtain ⟨more, enough⟩ :
      ∃ more, 4 * (source ++ tail).length + 7 = text.length + (more + 5) := by
    have length := spells.length_le
    refine ⟨4 * (source ++ tail).length + 2 - text.length, ?_⟩
    rw [List.length_append]
    omega
  have ran :
      (Reader.sequence (4 * (source ++ tail).length + 7) [] .topFirst []).run
          (.before (source ++ tail) 0 token rest) =
        .ok (text.map (fun c => ⟨.exactly c, false⟩) ++ last,
          .before (source ++ tail) (0 + source.length + tail.length) none []) := by
    rw [enough, Reader.run_sequence_of_spells spells tailAhead ahead, tailRan]
    simp [Item.ofNode, List.flatMap_map, ← List.map_eq_flatMap]
  have join :
      Part.join (text.map (fun c => ⟨.exactly c, false⟩) ++ last) =
        Node.ofList (text.map .exactly ++ last.map (·.node)) := by
    rw [Part.join, List.map_append, List.map_map]
    rfl
  have allSound : ∀ node ∈ text.map Node.exactly ++ last.map (·.node), node.IsSound := by
    rw [List.forall_mem_append, List.forall_mem_map, List.forall_mem_map]
    exact ⟨fun _ _ => ⟨rfl, rfl⟩, sound⟩
  have read := Reader.run_pattern ran (join ▸ Node.isSound_ofList allSound)
  rw [Pattern.parse, String.toList_ofList, Progress.start, ahead, ← join]
  show ((Reader.pattern.run (.before (source ++ tail) 0 token rest)) >>= fun p => pure p.1) = _
  rw [read]
  rfl

/-- What spells a text is read as a chain of exact literals. -/
theorem parse_of_spells
    {source text : List Char}
    (spells : Spells source text) :
    Pattern.parse (String.ofList source) = .ok ⟨Node.ofList (text.map .exactly), 0⟩ := by
  have read :=
    parse_of_spells_append spells [] [] rfl
      (fun _ _ items => by
        rw [List.append_nil (items.reverse.flatMap _)]
        exact Reader.run_sequence_stop (.inl rfl) _ _)
      (List.forall_mem_nil _)
  rwa [List.append_nil, List.map_nil, List.append_nil] at read

/-- What spells a word is read as a chain of exact literals in front of the end of the word. -/
theorem parse_of_spells_word
    {source text : List Char}
    (spells : Spells source text) :
    Pattern.parse (String.ofList (source ++ "(?:\\s|$)".toList)) =
      .ok ⟨Node.ofList (text.map .exactly ++ [wordEnd]), 0⟩ :=
  parse_of_spells_append spells _ [⟨wordEnd, false⟩] (nextToken_of_ne (by decide) _ _)
    (fun _ _ _ => Reader.run_sequence_wordEnd _ _ _)
    (List.forall_mem_singleton.mpr ⟨rfl, rfl⟩)

end Pattern

namespace Node

/-- In a chain, what comes behind a character goes on behind it. -/
theorem run_ofList_cons_exactly
    (c : Char)
    (rest : List Node)
    (next? : Option Nat)
    (state : State)
    (continuation : Continuation) :
    (ofList (.exactly c :: rest)).run next? state continuation =
      (exactly c).run none state fun state => (ofList rest).run next? state continuation := by
  cases rest <;> simp [ofList, exactly, run]

/-- In a chain, what comes behind a word goes on behind the word. -/
theorem run_ofList_word
    (word : List Char)
    (rest : List Node)
    (next? : Option Nat)
    (state : State)
    (continuation : Continuation) :
    (ofList (word.map .exactly ++ rest)).run next? state continuation =
      (ofText word).run none state fun state => (ofList rest).run next? state continuation := by
  induction word generalizing state with
  | nil =>
      rfl
  | cons c others inductionHypothesis =>
      rw [List.map_cons, List.cons_append, run_ofList_cons_exactly]
      simp only [ofText, List.foldr_cons, exactly, run] at inductionHypothesis ⊢
      simp only [inductionHypothesis]

/-- What comes behind a word does not matter to the word. -/
theorem run_ofText_congr
    (word : List Char)
    (next? other? : Option Nat)
    (state : State)
    (continuation : Continuation) :
    (ofText word).run next? state continuation = (ofText word).run other? state continuation := by
  by_cases ahead : word <+: state.cursor.ahead
  · obtain ⟨rest, shape⟩ := ahead
    rw [run_ofText next? state continuation shape.symm,
      run_ofText other? state continuation shape.symm]
  · rw [Node.run_ofText_of_not_prefix next? state continuation ahead,
      Node.run_ofText_of_not_prefix other? state continuation ahead]

/-- A chain asks for no more characters than its word has, and what comes behind it asks for. -/
theorem least_width_ofList_le
    (word : List Char)
    (rest : List Node) :
    (ofList (word.map .exactly ++ rest)).width.least ≤
      word.length + (ofList rest).width.least := by
  induction word with
  | nil =>
      simp
  | cons c others inductionHypothesis =>
      rw [List.map_cons, List.cons_append, List.length_cons]
      cases shape : others.map exactly ++ rest with
      | nil =>
          simp [ofList, exactly, width]
          omega
      | cons node nodes =>
          rw [shape] at inductionHypothesis
          simp only [ofList, exactly, width, Width.capped] at inductionHypothesis ⊢
          omega

end Node

namespace Pattern

/-- Patterns that start with the same word and ask for no more are found at the same places. -/
theorem search?_ofList
    (word : List Char)
    (rest : List Node)
    (pattern : Pattern)
    (groupless : pattern.groups = 0)
    (same :
      ∀ state,
        pattern.root.run none state settle =
          (Node.ofText word).run none state fun state => (Node.ofList rest).run none state settle)
    (least : pattern.root.width.least ≤ word.length)
    (restLeast : (Node.ofList rest).width.least = 0)
    (text : List Char) :
    search? ⟨Node.ofList (word.map .exactly ++ rest), 0⟩ text = pattern.search? text := by
  have sameMatches : matchAt? ⟨Node.ofList (word.map .exactly ++ rest), 0⟩ = pattern.matchAt? := by
    funext cursor
    rw [matchAt?, matchAt?, groupless, same, Node.run_ofList_word]
  have wordAhead :
      ∀ before after stop, pattern.MatchesBetween before after stop → word <+: after := by
    intro before after stop matched
    obtain ⟨state, cursor, matchesIff⟩ := exists_start pattern before after
    rw [matchesIff, same] at matched
    by_contra notAhead
    rw [Node.run_ofText_of_not_prefix none state _ (by rwa [cursor])] at matched
    cases matched
  refine search?_congr ?_ ?_ sameMatches text
  · intro before after stop matched
    rw [MatchesBetween, sameMatches] at matched
    have width := Node.least_width_ofList_le word rest
    have length := (wordAhead before after stop matched).length_le
    exact (width.trans (by omega)).trans length
  · intro before after stop matched
    exact least.trans (wordAhead before after stop matched).length_le

/-- Whether a text is the source of a pattern that is found at the same places as a given one. -/
def Describes (source : List Char) (pattern : Pattern) : Prop :=
  ∃ read,
    Pattern.parse (String.ofList source) = .ok read ∧
      ∀ text, read.search? text = pattern.search? text

/-- What spells a word describes the pattern that matches exactly the word. -/
theorem describes_literal
    {source word : List Char}
    (spells : Spells source word) :
    Describes source (.literal word) := by
  refine ⟨_, parse_of_spells spells, fun text => ?_⟩
  have search : search? ⟨Node.ofList (word.map .exactly ++ []), 0⟩ text = _ :=
    search?_ofList word [] (.literal word) rfl (fun _ => rfl) (Node.least_width_ofText_le word) rfl
      text
  rwa [List.append_nil] at search

/-- What spells a word describes, in front of a word end, the word and that end. -/
theorem describes_word
    {source word : List Char}
    (spells : Spells source word) :
    Describes (source ++ "(?:\\s|$)".toList) ⟨.seq (.ofText word) wordEnd, 0⟩ := by
  refine
    ⟨_, parse_of_spells_word spells,
      search?_ofList word [wordEnd] _ rfl (fun state => ?_) ?_ rfl⟩
  · exact Node.run_ofText_congr word _ none state _
  · have wordLeast := Node.least_width_ofText_le word
    have endLeast : wordEnd.width.least = 0 :=
      rfl
    simp only [Node.width, Width.capped, endLeast]
    omega

end Pattern

end BlockSync.Regex
