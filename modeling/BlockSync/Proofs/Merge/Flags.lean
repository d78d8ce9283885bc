import BlockSync.Proofs.Anchor.Location
import BlockSync.Proofs.Block.Selection
import BlockSync.Proofs.Merge.Independence

namespace BlockSync

/-!
# What the flags of a merge say

A merge tells whether it wrote a block and whether it took one out, and from this whether the text
differs from what it was.  A text with a block more has more lines, one with a block less has fewer,
and where a stale block is replaced the first line of the new one has another fingerprint.  So the
flags are right.  A merge of a payload that can be encoded fails only for an invalid name or for the
anchor of a block that is not there yet.  Any other payload is refused even if the text has a block.
-/

/-- A name is refused as a tag exactly if it is empty or has a blank character. -/
theorem Tag.exists_ofName_eq_error_iff
    {name : String} :
    (∃ error, Tag.ofName name = .error error) ↔
      name = "" ∨ ∃ c ∈ name.toList, Text.isBlank c = true := by
  have isInvalid :
      ¬ IsTagName name ↔ name = "" ∨ ∃ c ∈ name.toList, Text.isBlank c = true := by
    simp only [IsTagName, not_and_or, not_not, not_forall, String.toList_eq_nil_iff, exists_prop,
      Bool.not_eq_false]
  rw [← isInvalid, Tag.ofName]
  split
  · next valid =>
    simp [valid]
  · next invalid =>
    simp [invalid]

namespace Merge

variable
  {text : String}
  {tag : Tag}
  {anchor : Anchor}
  {payload : String}
  {style : CommentStyle}
  {result : MergeResult}

/-- A text with a block more has the lines of the block more. -/
theorem length_placed
    (returns : Bool)
    (lines : List Text.Line)
    (index : Nat)
    (tag : Tag)
    (payload : String)
    (style : CommentStyle) :
    (placed returns lines index tag payload style).length =
      lines.length + ((Text.lines payload).length + 2) := by
  rw [placed, Block.length_insert, length_written]

/-- The begin marker stands where a block is put. -/
theorem getElem?_placed
    {lines : List Text.Line}
    {index : Nat}
    (within : index ≤ lines.length)
    (returns : Bool)
    (tag : Tag)
    (payload : String)
    (style : CommentStyle) :
    (placed returns lines index tag payload style)[index]? =
      some (Marker.renderBegin tag.name payload style ++ Text.ending returns) := by
  have above : (lines.take index).length = index :=
    List.length_take_of_le within
  rw [placed, List.getElem?_append_right above.le, above, Nat.sub_self, written_eq]
  rfl

/-- A text with a new block differs from what it was. -/
theorem ofLines_placed_ne
    (lacksFeed : style.Lacks '\n')
    (text : String)
    (returns : Bool)
    (index : Nat)
    (tag : Tag)
    (payload : String) :
    Text.ofLines (placed returns (Text.lines text) index tag payload style) ≠ text := by
  intro same
  have sameLines := congrArg Text.lines same
  rw [lines_ofLines_placed lacksFeed fun _ => Text.notMem_of_mem_lines] at sameLines
  have sameLength := congrArg List.length sameLines
  rw [length_placed] at sameLength
  omega

/-- A text without a block that it had differs from what it was. -/
theorem ofLines_excise_ne
    {existing : Block}
    (found : Block.find? tag (Text.lines text) = some existing) :
    Text.ofLines (existing.excise (Text.lines text)) ≠ text := by
  intro same
  obtain ⟨ordered, within⟩ := Block.bounds_of_find? found
  have shorter := Block.length_excise ordered.le within
  have sameLines := congrArg Text.lines same
  by_cases nothing : existing.excise (Text.lines text) = []
  · -- The text was the block alone, of two lines at least, and the empty text has one.
    rw [nothing] at sameLines
    have oneLine : Text.lines (Text.ofLines []) = [[]] :=
      rfl
    rw [oneLine] at sameLines
    have length := congrArg List.length sameLines
    rw [List.length_singleton] at length
    omega
  · have fedless : ∀ line ∈ existing.excise (Text.lines text), '\n' ∉ line :=
      existing.forall_mem_excise fun _ => Text.notMem_of_mem_lines
    rw [Text.lines_ofLines nothing fedless] at sameLines
    rw [sameLines] at shorter
    omega

/-- A text with a block in place of a stale one differs from what it was. -/
theorem ofLines_replaced_ne
    (openerTokenless : Fingerprint.find? style.opener.toList = none)
    (tagTokenless : Fingerprint.find? tag.chars = none)
    (lacksFeed : style.Lacks '\n')
    {existing : Block}
    (found : Block.find? tag (Text.lines text) = some existing)
    (stale : existing.isCurrent payload = false)
    (returns : Bool) :
    Text.ofLines
        (placed returns (existing.excise (Text.lines text)) existing.first tag payload style) ≠
      text := by
  intro same
  have fedless : ∀ line ∈ existing.excise (Text.lines text), '\n' ∉ line :=
    existing.forall_mem_excise fun _ => Text.notMem_of_mem_lines
  have sameLines := congrArg Text.lines same
  rw [lines_ofLines_placed lacksFeed fedless] at sameLines
  obtain ⟨marker, here, fingerprint⟩ := (Block.isSelected_of_find? found).fingerprint
  have newMarker :=
    getElem?_placed (Block.first_le_length_excise found) returns tag payload style
  rw [sameLines, here, Option.some.injEq] at newMarker
  have current : existing.fingerprint = some (Fingerprint.ofPayload payload) := by
    rw [fingerprint, newMarker,
      Marker.find?_renderBegin_eq tag payload style (Marker.isLineEnd_ending returns),
      openerTokenless, tagTokenless]
    rfl
  rw [Block.isCurrent, current, beq_self_eq_true] at stale
  cases stale

/-- Where the block of a tag is put: beside its anchor, or where the block stood that it had. -/
inductive IsPlace (text : String) (tag : Tag) (anchor : Anchor) : List Text.Line → Nat → Prop where
  | fresh (index : Nat) :
      Block.find? tag (Text.lines text) = none →
      anchor.insertionIndex text = .ok index →
      IsPlace text tag anchor (Text.lines text) index
  | replaced (existing : Block) :
      Block.find? tag (Text.lines text) = some existing →
      IsPlace text tag anchor (existing.excise (Text.lines text)) existing.first

section Flags

variable
  (openerTokenless : Fingerprint.find? style.opener.toList = none)
  (tagTokenless : Fingerprint.find? tag.chars = none)
  (lacksFeed : style.Lacks '\n')

include openerTokenless tagTokenless lacksFeed

/-- A merge that succeeds tells rightly whether the text differs from what it was. -/
theorem Outcome.changed_iff
    (outcome : Outcome text tag anchor payload style result) :
    result.changed = true ↔ result.contents ≠ text := by
  cases outcome with
  | fresh index absent located =>
      exact iff_of_true rfl (ofLines_placed_ne lacksFeed text _ index tag payload)
  | kept existing found current =>
      exact iff_of_false Bool.false_ne_true fun differs => differs rfl
  | replaced existing found stale =>
      exact
        iff_of_true rfl
          (ofLines_replaced_ne openerTokenless tagTokenless lacksFeed found stale _)

/-- A merge that succeeds tells rightly whether it took out the block that the text had. -/
theorem Outcome.cleared_iff
    (outcome : Outcome text tag anchor payload style result) :
    result.cleared = true ↔
      result.contents ≠ text ∧
        ∃ existing,
          Block.find? tag (Text.lines text) = some existing ∧
            result.contents =
              Text.ofLines
                (placed (usesReturns (Text.lines text)) (existing.excise (Text.lines text))
                  existing.first tag payload style) := by
  have changed := outcome.changed_iff openerTokenless tagTokenless lacksFeed
  cases outcome with
  | fresh index absent located =>
      refine iff_of_false Bool.false_ne_true ?_
      rintro ⟨_, existing, found, _⟩
      rw [absent] at found
      cases found
  | kept existing found current =>
      exact iff_of_false Bool.false_ne_true fun cleared => cleared.1 rfl
  | replaced existing found stale =>
      exact iff_of_true rfl ⟨changed.mp rfl, existing, found, rfl⟩

/-- A merge that succeeds tells rightly whether it put a block into the text. -/
theorem Outcome.merged_iff
    (outcome : Outcome text tag anchor payload style result) :
    result.merged = true ↔
      result.contents ≠ text ∧
        ∃ lines index,
          IsPlace text tag anchor lines index ∧
            result.contents =
              Text.ofLines
                (placed (usesReturns (Text.lines text)) lines index tag payload style) := by
  have changed := outcome.changed_iff openerTokenless tagTokenless lacksFeed
  cases outcome with
  | fresh index absent located =>
      exact iff_of_true rfl ⟨changed.mp rfl, _, index, .fresh index absent located, rfl⟩
  | kept existing found current =>
      exact iff_of_false Bool.false_ne_true fun merged => merged.1 rfl
  | replaced existing found stale =>
      exact
        iff_of_true rfl ⟨changed.mp rfl, _, existing.first, .replaced existing found, rfl⟩

end Flags

/-- Taking out a block tells rightly whether the text differs from what it was. -/
theorem changed_removeTagged_iff (text : String) (tag : Tag) :
    (removeTagged text tag).changed = true ↔ (removeTagged text tag).contents ≠ text := by
  cases found : Block.find? tag (Text.lines text) with
  | none =>
      rw [removeTagged, found]
      exact iff_of_false Bool.false_ne_true fun differs => differs rfl
  | some existing =>
      rw [removeTagged_of_find? found]
      exact iff_of_true rfl (ofLines_excise_ne found)

/-- Taking out a block tells rightly whether there was one, whose lines are gone then. -/
theorem cleared_removeTagged_iff (text : String) (tag : Tag) :
    (removeTagged text tag).cleared = true ↔
      ∃ existing,
        Block.find? tag (Text.lines text) = some existing ∧
          (removeTagged text tag).contents = Text.ofLines (existing.excise (Text.lines text)) := by
  cases found : Block.find? tag (Text.lines text) with
  | none =>
      rw [removeTagged, found]
      refine iff_of_false Bool.false_ne_true ?_
      rintro ⟨_, found, _⟩
      cases found
  | some existing =>
      rw [removeTagged_of_find? found]
      exact iff_of_true rfl ⟨existing, rfl, rfl⟩

/-- Taking out a block never writes one. -/
theorem merged_removeTagged (text : String) (tag : Tag) :
    (removeTagged text tag).merged = false := by
  rw [removeTagged]
  split <;> rfl

/-- A merge is refused for its name exactly if this is empty or has a blank character. -/
theorem addOrUpdate_eq_invalidTag_iff
    {name : String}
    {raw : RawText} :
    (∃ error, addOrUpdate text name anchor raw style = .error (.invalidTag error)) ↔
      name = "" ∨ ∃ c ∈ name.toList, Text.isBlank c = true := by
  rw [← Tag.exists_ofName_eq_error_iff]
  constructor
  · rintro ⟨_, failed⟩
    rcases Except.bind_eq_error_iff.mp failed with refused | ⟨_, _, failed⟩
    · obtain ⟨error, refused, _⟩ := Except.mapError_eq_error_iff.mp refused
      exact ⟨error, refused⟩
    · rcases Except.bind_eq_error_iff.mp failed with unencoded | ⟨_, _, failed⟩
      · obtain ⟨_, _, isEncoding⟩ := Except.mapError_eq_error_iff.mp unencoded
        cases isEncoding
      · obtain ⟨_, _, isAnchor⟩ := Except.mapError_eq_error_iff.mp failed
        cases isAnchor
  · rintro ⟨error, refused⟩
    rw [addOrUpdate, refused]
    exact ⟨error, rfl⟩

/-- Taking out a block fails exactly if the name is empty or has a blank character. -/
theorem remove_eq_error_iff
    {name : String} :
    (∃ error, remove text name = .error error) ↔
      name = "" ∨ ∃ c ∈ name.toList, Text.isBlank c = true := by
  rw [← Tag.exists_ofName_eq_error_iff]
  constructor
  · rintro ⟨_, failed⟩
    rcases Except.bind_eq_error_iff.mp failed with refused | ⟨_, _, failed⟩
    · obtain ⟨error, refused, _⟩ := Except.mapError_eq_error_iff.mp refused
      exact ⟨error, refused⟩
    · cases failed
  · rintro ⟨error, refused⟩
    rw [remove, refused]
    exact ⟨_, rfl⟩

/-- A merge with a valid tag is refused for its payload exactly if this cannot be encoded. -/
theorem addOrUpdate_eq_unencodable_iff
    {raw : RawText}
    {error : EncodeError} :
    addOrUpdate text tag.name anchor raw style = .error (.unencodable error) ↔
      raw.toText = .error error := by
  cases isText : raw.toText with
  | error other =>
      rw [addOrUpdate_of_toText_eq_error isText]
      simp
  | ok payload =>
      rw [RawText.toText_eq_ok_iff.mp isText, addOrUpdate_name_eq]
      refine iff_of_false (fun failed => ?_) (fun failed => nomatch failed)
      obtain ⟨_, _, isAnchor⟩ := Except.mapError_eq_error_iff.mp failed
      cases isAnchor

/-- If the text has a block, a merge succeeds with the same result whatever the anchor is. -/
theorem exists_addOrUpdate_of_find?
    {existing : Block}
    (found : Block.find? tag (Text.lines text) = some existing)
    (payload : String)
    (style : CommentStyle) :
    ∃ result,
      (∀ anchor, addOrUpdate text tag.name anchor payload style = .ok result) ∧
        (existing.isCurrent payload = true → result = .unchanged text) := by
  cases current : existing.isCurrent payload with
  | true =>
      refine ⟨_, fun anchor => addOrUpdate_name_eq_ok_iff.mpr (.kept existing found current), ?_⟩
      exact fun _ => rfl
  | false =>
      refine
        ⟨_, fun anchor => addOrUpdate_name_eq_ok_iff.mpr (.replaced existing found current), ?_⟩
      intro isTrue
      cases isTrue

/-- If the text has no block, a merge does what its anchor allows. -/
theorem addOrUpdate_of_find?_eq_none
    (absent : Block.find? tag (Text.lines text) = none)
    (anchor : Anchor)
    (payload : String)
    (style : CommentStyle) :
    (∀ error,
      addOrUpdate text tag.name anchor payload style = .error (.anchor error) ↔
        anchor.locate text = .error error) ∧
    ((∃ result, addOrUpdate text tag.name anchor payload style = .ok result) ↔
      ∃ span, anchor.locate text = .ok span) := by
  rw [addOrUpdate_name_eq, addTagged, absent]
  dsimp only
  rw [Anchor.insertionIndex_eq_map]
  cases anchor.locate text with
  | error error =>
      simp [bind, Except.bind, Except.mapError, Except.map]
  | ok span =>
      simp [bind, Except.bind, Except.mapError, Except.map, pure, Except.pure]

/--
A merge fails for its name exactly if this is empty or has a blank character, and otherwise for its
payload exactly if this has a surrogate, with a block in the text or without one.  Apart from that
it fails only for the anchor of a block that the text does not have yet: if no line is matched or
several are.  If the text has a block, the anchor does not matter, and a block that is up to date
stays.  What a merge and the removal of a block tell about the text that they leave is right.
-/
theorem flags_faithful
    (openerTokenless : Fingerprint.find? style.opener.toList = none)
    (lacksFeed : style.Lacks '\n')
    (text : String)
    (raw : RawText) :
    (∀ name,
      (∀ anchor,
        (∃ error, addOrUpdate text name anchor raw style = .error (.invalidTag error)) ↔
          name = "" ∨ ∃ c ∈ name.toList, Text.isBlank c = true) ∧
      ((∃ error, remove text name = .error error) ↔
        name = "" ∨ ∃ c ∈ name.toList, Text.isBlank c = true)) ∧
    (∀ (tag : Tag) anchor error,
      addOrUpdate text tag.name anchor raw style = .error (.unencodable error) ↔
        raw.toText = .error error) ∧
    ∀ payload : String, raw = payload → ∀ tag : Tag, Fingerprint.find? tag.chars = none →
      (∀ existing, Block.find? tag (Text.lines text) = some existing →
        ∃ result,
          (∀ anchor, addOrUpdate text tag.name anchor payload style = .ok result) ∧
            (existing.isCurrent payload = true → result = .unchanged text)) ∧
      (Block.find? tag (Text.lines text) = none → ∀ anchor,
        (addOrUpdate text tag.name anchor payload style =
            .error (.anchor (.notFound anchor.description text)) ↔
          anchor.matchingLines text = ∅) ∧
        ((∃ lines,
            addOrUpdate text tag.name anchor payload style =
              .error (.anchor (.ambiguous anchor.description text lines))) ↔
          (anchor.matchingLines text).Nontrivial) ∧
        ((∃ result, addOrUpdate text tag.name anchor payload style = .ok result) ↔
          ∃! line, line ∈ anchor.matchingLines text)) ∧
      (∀ anchor result, addOrUpdate text tag.name anchor payload style = .ok result →
        (result.changed = true ↔ result.contents ≠ text) ∧
        (result.cleared = true ↔
          result.contents ≠ text ∧
            ∃ existing,
              Block.find? tag (Text.lines text) = some existing ∧
                result.contents =
                  Text.ofLines
                    (placed (usesReturns (Text.lines text)) (existing.excise (Text.lines text))
                      existing.first tag payload style)) ∧
        (result.merged = true ↔
          result.contents ≠ text ∧
            ∃ lines index,
              IsPlace text tag anchor lines index ∧
                result.contents =
                  Text.ofLines
                    (placed (usesReturns (Text.lines text)) lines index tag payload style))) ∧
      ∀ result, remove text tag.name = .ok result →
        (result.changed = true ↔ result.contents ≠ text) ∧
        (result.cleared = true ↔
          ∃ existing,
            Block.find? tag (Text.lines text) = some existing ∧
              result.contents = Text.ofLines (existing.excise (Text.lines text))) ∧
        result.merged = false := by
  refine
    ⟨fun name => ⟨fun anchor => addOrUpdate_eq_invalidTag_iff, remove_eq_error_iff⟩,
      fun tag anchor error => addOrUpdate_eq_unencodable_iff, ?_⟩
  rintro payload rfl tag tagTokenless
  refine ⟨fun existing found => exists_addOrUpdate_of_find? found payload style, ?_, ?_, ?_⟩
  · intro absent anchor
    obtain ⟨fails, succeeds⟩ := addOrUpdate_of_find?_eq_none absent anchor payload style
    simp only [fails, succeeds]
    exact
      ⟨Anchor.locate_eq_notFound_iff, Anchor.exists_locate_eq_ambiguous_iff,
        Anchor.exists_locate_eq_ok_iff⟩
  · intro anchor result merged
    have outcome := addOrUpdate_name_eq_ok_iff.mp merged
    exact
      ⟨outcome.changed_iff openerTokenless tagTokenless lacksFeed,
        outcome.cleared_iff openerTokenless tagTokenless lacksFeed,
        outcome.merged_iff openerTokenless tagTokenless lacksFeed⟩
  · intro result removed
    rw [remove_name_eq, Except.ok.injEq] at removed
    subst removed
    exact
      ⟨changed_removeTagged_iff text tag, cleared_removeTagged_iff text tag,
        merged_removeTagged text tag⟩

/-- A text that is nothing but a block, which carries no fingerprint. -/
def blockAlone : String :=
  "# @generated begin t - tagmark (DO NOT MODIFY)\n# @generated end t"

/-- The block of the text is stale, and is replaced without its anchor, or taken out. -/
theorem flags_faithful_blockAlone :
    ∃ result,
      addOrUpdate blockAlone "t" (.literal "x" .after "") "p" .default = .ok result ∧
        result.merged = true ∧
        result.cleared = true ∧
        result.contents ≠ blockAlone ∧
        remove blockAlone "t" = .ok ⟨"", false, true⟩ ∧
        "" ≠ blockAlone := by
  have tokenless : ∀ text : List Char, text.length < 45 → Fingerprint.find? text = none :=
    fun _ isShort =>
      Fingerprint.find?_eq_none_of_not_holdsToken (Fingerprint.not_holdsToken_of_length_lt isShort)
  have found :
      Block.find? ⟨"t", by decide⟩ (Text.lines blockAlone) = some ⟨0, 1, none⟩ := by
    decide +kernel
  obtain ⟨_, _, tags⟩ :=
    flags_faithful (tokenless CommentStyle.default.opener.toList (by decide)) (by decide)
      blockAlone "p"
  obtain ⟨_, _, results, removals⟩ := tags "p" rfl ⟨"t", by decide⟩ (tokenless _ (by decide))
  have merged :
      addOrUpdate blockAlone "t" (.literal "x" .after "") "p" .default = .ok _ :=
    addOrUpdate_name_eq_ok_iff.mpr (.replaced ⟨0, 1, none⟩ found rfl)
  have removed : remove blockAlone "t" = .ok ⟨"", false, true⟩ := by
    decide +kernel
  obtain ⟨changed, _, _⟩ := results _ _ merged
  exact
    ⟨_, merged, rfl, rfl, changed.mp rfl, removed, (removals _ removed).1.mp rfl⟩

/-- A payload that is nothing but a surrogate. -/
def surrogatePayload : RawText :=
  [.surrogate 0x4FF]

/--
The payload is refused, both for a text with a block and for one without, in which the anchor does
not match any line.
-/
theorem surrogatePayload_refused :
    (Block.find? ⟨"t", by decide⟩ (Text.lines blockAlone) = some ⟨0, 1, none⟩ ∧
        addOrUpdate blockAlone "t" (.literal "x" .after "") surrogatePayload .default =
          .error (.unencodable ⟨0, [0x4FF]⟩)) ∧
      Block.find? ⟨"t", by decide⟩ (Text.lines "y") = none ∧
        (Anchor.literal "x" .after "").locate "y" = .error (.notFound "x" "y") ∧
        addOrUpdate "y" "t" (.literal "x" .after "") surrogatePayload .default =
          .error (.unencodable ⟨0, [0x4FF]⟩) := by
  decide +kernel

end Merge

end BlockSync
