import BlockSync.Proofs.Block.Frame
import BlockSync.Proofs.Block.Rendered
import BlockSync.Proofs.Text.Crlf

namespace BlockSync

/-!
# Reading a block back

A rendered block is found again from its first line to its last one, with or without carriage
returns behind its lines.  The fingerprint that is read back is the first token in its begin marker.
The tag stands in front of the fingerprint of the payload, so a tag that holds a token of its own
hides the fingerprint.
-/

/-- The comment styles of the file types that blocks are put into. -/
def CommentStyle.shipped : List CommentStyle :=
  [⟨"#", ""⟩, ⟨"//", ""⟩, ⟨"<!--", "-->"⟩]

/--
A comment style that takes no part in what is read back: it writes neither the keyword nor a token,
and does not go on behind a tag as a begin marker does.
-/
structure CommentStyle.Neutral (style : CommentStyle) : Prop where
  unmarked :
    style.Unmarked
  closerSpares :
    ¬ "begin".toList <+: style.closer.toList
  openerTokenless :
    ¬ Fingerprint.HoldsToken style.opener.toList

/-- All shipped comment styles are neutral. -/
theorem CommentStyle.neutral_of_mem_shipped
    {style : CommentStyle}
    (shipped : style ∈ CommentStyle.shipped) :
    style.Neutral := by
  have checked :
      ∀ style ∈ CommentStyle.shipped,
        '@' ∉ style.opener.toList ∧ '@' ∉ style.closer.toList ∧
          ¬ "begin".toList <+: style.closer.toList ∧ style.opener.toList.length < 45 := by
    decide
  obtain ⟨opener, closer, closerSpares, short⟩ := checked style shipped
  exact
    ⟨⟨Marker.unmarked_of_notMem opener, Marker.unmarked_of_notMem closer⟩, closerSpares,
      Fingerprint.not_holdsToken_of_length_lt short⟩

namespace Block

variable {tag : Tag} {payload : String} {style : CommentStyle}

/-- A scan does not see the carriage returns behind the lines. -/
private theorem findFrom_of_same
    {lines others : List Text.Line}
    (same : List.Forall₂ Text.SameUpToReturn lines others)
    (index : Nat)
    {begun other : Option (Nat × Text.Line)}
    (sameBegun :
      begun.map (fun opened => (opened.1, Fingerprint.find? opened.2)) =
        other.map (fun opened => (opened.1, Fingerprint.find? opened.2))) :
    findFrom tag index begun lines = findFrom tag index other others := by
  induction same generalizing index begun other with
  | nil =>
      rfl
  | @cons ended line rest others sameLine _ inductionHypothesis =>
      have sameMarkers :
          Marker.isBegin tag ended = Marker.isBegin tag line ∧
            Marker.isEnd tag ended = Marker.isEnd tag line ∧
            Fingerprint.find? ended = Fingerprint.find? line := by
        rcases sameLine with rfl | rfl <;> simp
      obtain ⟨sameBegin, sameEnd, sameFingerprint⟩ := sameMarkers
      unfold findFrom
      rw [sameBegin, sameEnd]
      split
      · exact inductionHypothesis (index + 1) (by simp [sameFingerprint])
      · split
        -- The begin markers above may differ, but only their fingerprints go into the block.
        · cases begun <;> cases other
          · exact inductionHypothesis (index + 1) rfl
          · cases sameBegun
          · cases sameBegun
          · simp only [Option.map_some, Option.some.injEq, Prod.mk.injEq] at sameBegun
            simp [sameBegun]
        · exact inductionHypothesis (index + 1) sameBegun

/-- The block of a tag is found at the same place whatever carriage returns are behind the lines. -/
theorem find?_of_same
    {lines others : List Text.Line}
    (same : List.Forall₂ Text.SameUpToReturn lines others)
    (tag : Tag) :
    find? tag lines = find? tag others :=
  findFrom_of_same same 0 rfl

/-- The block of a tag is found in the same lines in either spelling. -/
theorem find?_returned (tag : Tag) (lines : List Text.Line) :
    find? tag (Text.returned lines) = find? tag lines :=
  find?_of_same (Text.sameUpToReturn_returned lines) tag

/-- A rendered block is a region of its tag, if its payload holds no marker of the tag. -/
theorem isRegion_render
    (neutral : style.Neutral)
    (payloadForeign : ∀ line ∈ Text.lines payload, Marker.Foreign tag line) :
    IsRegion tag (render tag payload style) := by
  refine
    ⟨_, _, _, rfl, Marker.isBegin_renderBegin_self tag payload style, payloadForeign, ?_⟩
  rw [Marker.closes, Marker.isEnd_renderEnd_self,
    Marker.isBegin_renderEnd_of_closer neutral.unmarked neutral.closerSpares]
  rfl

/-- The block that is found in a rendered block: all of it, with the first token that it holds. -/
theorem find?_render
    (neutral : style.Neutral)
    (payloadForeign : ∀ line ∈ Text.lines payload, Marker.Foreign tag line) :
    find? tag (render tag payload style) =
      some ⟨0, (Text.lines payload).length + 1,
        (Fingerprint.find? tag.chars).or (some (Fingerprint.ofPayload payload))⟩ := by
  have stands : Stands tag [] (render tag payload style) :=
    ⟨List.Pairwise.nil, isRegion_render neutral payloadForeign⟩
  have found := stands.find?_eq []
  have fingerprint :
      Fingerprint.find? (Marker.renderBegin tag.name payload style) =
        (Fingerprint.find? tag.chars).or (some (Fingerprint.ofPayload payload)) := by
    have read := Marker.find?_renderBegin_eq tag payload style (.inl rfl)
    rwa [List.append_nil,
      Fingerprint.find?_eq_none_of_not_holdsToken neutral.openerTokenless, Option.none_or] at read
  rw [List.nil_append, List.append_nil] at found
  rw [found, ofRegion, ← fingerprint]
  simp [render]

/-- A tag that holds a token hides the fingerprint, unless the token is this fingerprint. -/
theorem exists_stale_of_token
    (neutral : style.Neutral)
    (payloadForeign : ∀ line ∈ Text.lines payload, Marker.Foreign tag line)
    {token : Fingerprint}
    (holds : Fingerprint.find? tag.chars = some token)
    (different : token ≠ Fingerprint.ofPayload payload) :
    ∃ block,
      find? tag (render tag payload style) = some block ∧
        block.isCurrent payload = false := by
  refine ⟨_, find?_render neutral payloadForeign, ?_⟩
  rw [isCurrent, holds]
  simpa using different

/--
A rendered block is found again from its first line to its last one, whatever carriage returns are
behind its lines.  It counts as generated from its payload exactly if its tag holds no other token.
-/
theorem render_recovered
    (shipped : style ∈ CommentStyle.shipped)
    (payloadForeign : ∀ line ∈ Text.lines payload, Marker.Foreign tag line)
    {lines : List Text.Line}
    (same : List.Forall₂ Text.SameUpToReturn lines (render tag payload style)) :
    ∃ block,
      find? tag lines = some block ∧
        block.first = 0 ∧
        block.last + 1 = lines.length ∧
        (block.isCurrent payload = true ↔
          ∀ token, Fingerprint.find? tag.chars = some token →
            token = Fingerprint.ofPayload payload) := by
  refine
    ⟨_, (find?_of_same same tag).trans
      (find?_render (CommentStyle.neutral_of_mem_shipped shipped) payloadForeign), rfl, ?_, ?_⟩
  · simp [same.length_eq, render]
  · rw [isCurrent]
    cases Fingerprint.find? tag.chars <;> simp

/-- A letter is a line. -/
theorem lines_letter : Text.lines "p" = [['p']] :=
  rfl

/-- A line of one letter is foreign to every tag. -/
theorem foreign_letter (tag : Tag) : ∀ line ∈ Text.lines "p", Marker.Foreign tag line := by
  have unmarked : Marker.Unmarked ['p'] :=
    Marker.unmarked_of_notMem (by decide)
  rw [lines_letter, List.forall_mem_singleton]
  exact ⟨Marker.isBegin_eq_false unmarked tag, Marker.isEnd_eq_false unmarked tag⟩

/-- A tag with characters that mean something else in a pattern, and with the keyword of markers. -/
def keywordTag : Tag :=
  ⟨"(.*)@generated", by decide⟩

/-- A block with carriage returns behind all of its lines is found and counts as current. -/
theorem render_recovered_returned :
    ∃ block,
      find? keywordTag ((render keywordTag "p" ⟨"<!--", "-->"⟩).map (· ++ ['\r'])) = some block ∧
        block.first = 0 ∧
        block.last = 2 ∧
        block.isCurrent "p" = true := by
  have shipped : (⟨"<!--", "-->"⟩ : CommentStyle) ∈ CommentStyle.shipped := by
    decide
  have same :
      List.Forall₂ Text.SameUpToReturn
        ((render keywordTag "p" ⟨"<!--", "-->"⟩).map (· ++ ['\r']))
        (render keywordTag "p" ⟨"<!--", "-->"⟩) :=
    List.forall₂_map_left_iff.mpr (List.forall₂_same.mpr fun _ _ => Or.inr rfl)
  obtain ⟨block, found, first, last, current⟩ :=
    render_recovered shipped (foreign_letter keywordTag) same
  have tokenless : Fingerprint.find? keywordTag.chars = none :=
    Fingerprint.find?_eq_none_of_not_holdsToken
      (Fingerprint.not_holdsToken_of_length_lt (by decide))
  have threeLines : block.last + 1 = 3 := by
    rw [last, List.length_map, render, lines_letter]
    simp
  refine ⟨block, found, first, Nat.succ.inj threeLines, current.mpr fun token holds => ?_⟩
  rw [tokenless] at holds
  cases holds

/-- A tag that looks like a fingerprint. -/
def tokenTag : Tag :=
  ⟨"sync-0000000000000000000000000000000000000000", by decide⟩

/-- Such a tag is found as a fingerprint, and it is not that of the payload. -/
theorem find?_tokenTag :
    Fingerprint.find? tokenTag.chars = some tokenTag.chars ∧
      tokenTag.chars ≠ Fingerprint.ofPayload "p" := by
  have isToken : Fingerprint.IsToken tokenTag.chars :=
    ⟨List.replicate 40 '0', rfl, rfl, fun c member => by
      rw [List.eq_of_mem_replicate member]
      rfl⟩
  have found : Fingerprint.find? (tokenTag.chars ++ []) = some tokenTag.chars :=
    Fingerprint.find?_token_append isToken (by simp)
  rw [List.append_nil] at found
  exact ⟨found, by decide +kernel⟩

/-- A block of such a tag is found, but it does not count as generated from its payload. -/
theorem render_not_current :
    (∀ line ∈ Text.lines "p", Marker.Foreign tokenTag line) ∧
      ∃ block,
        find? tokenTag (render tokenTag "p" .default) = some block ∧
          block.isCurrent "p" = false := by
  have shipped : CommentStyle.default ∈ CommentStyle.shipped := by
    decide
  have neutral := CommentStyle.neutral_of_mem_shipped shipped
  exact
    ⟨foreign_letter tokenTag,
      exists_stale_of_token neutral (foreign_letter tokenTag) find?_tokenTag.1 find?_tokenTag.2⟩

end Block

end BlockSync
