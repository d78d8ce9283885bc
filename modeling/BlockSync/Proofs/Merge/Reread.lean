import BlockSync.Proofs.Anchor
import BlockSync.Proofs.Merge.Outcome

namespace BlockSync

/-!
# Reading a block back

A block that was just written is the block that is found, although markers of its tag may be left
over above it and below it.  It carries the fingerprint of its payload, so writing it once more
changes nothing.
-/

namespace Block

/-- The lines of a file between the first and the last line of a block. -/
def interior (block : Block) (lines : List Text.Line) : List Text.Line :=
  (lines.take block.last).drop (block.first + 1)

/-- The interior of a region is what stands between its two markers. -/
theorem interior_ofRegion
    (before : List Text.Line)
    (marker : Text.Line)
    (inner : List Text.Line)
    (stop : Text.Line)
    (after : List Text.Line) :
    (ofRegion before (marker :: (inner ++ [stop]))).interior
        (before ++ ((marker :: (inner ++ [stop])) ++ after)) =
      inner := by
  have shape :
      before ++ ((marker :: (inner ++ [stop])) ++ after) =
        ((before ++ [marker]) ++ inner) ++ (stop :: after) := by
    simp
  have last :
      (ofRegion before (marker :: (inner ++ [stop]))).last =
        ((before ++ [marker]) ++ inner).length := by
    simp only [ofRegion, List.length_append, List.length_cons, List.length_nil]
    omega
  have first : before.length + 1 = (before ++ [marker]).length := by
    simp
  rw [interior, shape, last, List.take_left, first_ofRegion, first, List.drop_left]

end Block

namespace Merge

section Placed

variable
  {tag : Tag}
  {payload : String}
  {style : CommentStyle}
  {lines : List Text.Line}
  {index : Nat}

/-- The block as it is found once it is written in front of a line. -/
def placedBlock (index : Nat) (payload : String) : Block :=
  ⟨index, index + (Text.lines payload).length + 1, some (Fingerprint.ofPayload payload)⟩

/-- A written block carries the fingerprint of its payload. -/
theorem isCurrent_placedBlock (index : Nat) (payload : String) :
    (placedBlock index payload).isCurrent payload = true := by
  simp [placedBlock, Block.isCurrent]

/-- The block that is placed is the region of the lines that are written. -/
theorem ofRegion_written
    (openerTokenless : ¬ Fingerprint.HoldsToken style.opener.toList)
    (tagTokenless : ¬ Fingerprint.HoldsToken tag.chars)
    (within : index ≤ lines.length)
    (payload : String)
    (returns isLast : Bool) :
    Block.ofRegion (lines.take index) (written returns isLast tag payload style) =
      placedBlock index payload := by
  rw [Block.ofRegion, fingerprint_written openerTokenless tagTokenless, length_written,
    List.length_take, Nat.min_eq_left within]
  rfl

/-- A written block is the block that is found, if no block is complete above it. -/
theorem find?_placed
    (openerTokenless : ¬ Fingerprint.HoldsToken style.opener.toList)
    (tagTokenless : ¬ Fingerprint.HoldsToken tag.chars)
    (clean : style.Clean)
    (tagUnmarked : Marker.Unmarked tag.chars)
    (payloadForeign : ∀ line ∈ Text.lines payload, Marker.Foreign tag line)
    (unpaired : Block.Unpaired tag (lines.take index))
    (within : index ≤ lines.length)
    (returns : Bool) :
    Block.find? tag (placed returns lines index tag payload style) =
      some (placedBlock index payload) := by
  have stands :
      Block.Stands tag (lines.take index)
        (written returns (lines.length ≤ index) tag payload style) :=
    ⟨unpaired, isRegion_written clean tagUnmarked payloadForeign _ _⟩
  rw [placed, stands.find?_eq, ofRegion_written openerTokenless tagTokenless within]

/-- Between the markers of a written block stand the lines of its payload with their endings. -/
theorem interior_placed
    (within : index ≤ lines.length)
    (returns : Bool)
    (tag : Tag)
    (payload : String)
    (style : CommentStyle) :
    (placedBlock index payload).interior (placed returns lines index tag payload style) =
      (Text.lines payload).map (· ++ Text.ending returns) := by
  have inner :=
    Block.interior_ofRegion (lines.take index)
      (Marker.renderBegin tag.name payload style ++ Text.ending returns)
      ((Text.lines payload).map (· ++ Text.ending returns))
      (Marker.renderEnd tag.name style ++
        Text.ending (returns && !decide (lines.length ≤ index)))
      (lines.drop index)
  rw [placed, written_eq]
  refine Eq.trans ?_ inner
  simp [Block.interior, placedBlock, Block.ofRegion, Nat.min_eq_left within, Nat.add_assoc]

/-- Around a written block stand the lines that it was written between. -/
theorem excise_placed
    (within : index ≤ lines.length)
    (returns : Bool)
    (tag : Tag)
    (payload : String)
    (style : CommentStyle) :
    (placedBlock index payload).excise (placed returns lines index tag payload style) =
      lines := by
  have length :=
    length_written returns (decide (lines.length ≤ index)) tag payload style
  have first : index = (lines.take index).length := by
    rw [List.length_take, Nat.min_eq_left within]
  have last :
      index + (Text.lines payload).length + 1 + 1 =
        (lines.take index ++
          written returns (decide (lines.length ≤ index)) tag payload style).length := by
    rw [List.length_append, ← first, length]
    rfl
  rw [Block.excise, placedBlock, last, placed, ← List.append_assoc, List.drop_left,
    List.append_assoc]
  conv_lhs =>
    rw [List.take_left' first.symm, List.take_append_drop]

/-- A block brings no line feeds into the lines that it is put between. -/
theorem fedless_placed
    (lacksFeed : style.Lacks '\n')
    (fedless : ∀ line ∈ lines, '\n' ∉ line)
    (returns : Bool)
    (index : Nat)
    (tag : Tag)
    (payload : String) :
    ∀ line ∈ placed returns lines index tag payload style, '\n' ∉ line :=
  Text.forall_mem_insert fedless (fedless_written lacksFeed tag payload _ _) index

/-- The lines of a text with a block in it are those that were put together. -/
theorem lines_ofLines_placed
    (lacksFeed : style.Lacks '\n')
    (fedless : ∀ line ∈ lines, '\n' ∉ line)
    (returns : Bool)
    (index : Nat)
    (tag : Tag)
    (payload : String) :
    Text.lines (Text.ofLines (placed returns lines index tag payload style)) =
      placed returns lines index tag payload style := by
  apply Text.lines_ofLines
  · simp [placed, written_eq]
  · exact fedless_placed lacksFeed fedless returns index tag payload

/-- A block that is put into the lines of a text is read back from the new text. -/
theorem read_placed
    (openerTokenless : ¬ Fingerprint.HoldsToken style.opener.toList)
    (tagTokenless : ¬ Fingerprint.HoldsToken tag.chars)
    (clean : style.Clean)
    (tagUnmarked : Marker.Unmarked tag.chars)
    (payloadForeign : ∀ line ∈ Text.lines payload, Marker.Foreign tag line)
    (unpaired : Block.Unpaired tag (lines.take index))
    (within : index ≤ lines.length)
    (fedless : ∀ line ∈ lines, '\n' ∉ line)
    (returns : Bool) :
    let contents := Text.ofLines (placed returns lines index tag payload style)
    Block.find? tag (Text.lines contents) = some (placedBlock index payload) ∧
      (placedBlock index payload).interior (Text.lines contents) =
        (Text.lines payload).map (· ++ Text.ending returns) ∧
      (placedBlock index payload).excise (Text.lines contents) = lines := by
  intro contents
  rw [lines_ofLines_placed clean.lacksFeed fedless]
  exact
    ⟨find?_placed openerTokenless tagTokenless clean tagUnmarked payloadForeign unpaired
        within returns,
      interior_placed within returns tag payload style,
      excise_placed within returns tag payload style⟩

end Placed

/-- What a merge that wrote a block leaves to be read in the new text. -/
structure Reread
    (text contents : String)
    (tag : Tag)
    (anchor : Anchor)
    (payload : String)
    (block : Block) :
    Prop where
  found :
    Block.find? tag (Text.lines contents) = some block
  starts :
    match Block.find? tag (Text.lines text) with
    | none => anchor.insertionIndex text = .ok block.first
    | some existing => block.first = existing.first
  ends :
    block.last = block.first + (Text.lines payload).length + 1
  current :
    block.fingerprint = some (Fingerprint.ofPayload payload)
  interior :
    block.interior (Text.lines contents) =
      (Text.lines payload).map
        (· ++ Text.ending (decide (['\r', '\n'] <:+: text.toList)))
  around :
    block.excise (Text.lines contents) =
      match Block.find? tag (Text.lines text) with
      | none => Text.lines text
      | some existing => existing.excise (Text.lines text)

/--
A merge that writes a block writes the block that is then found, and nothing else.  Whether it
writes a block or not, the same merge of the new text changes nothing.
-/
theorem addOrUpdate_again
    {text : String}
    {tag : Tag}
    {anchor : Anchor}
    {payload : String}
    {style : CommentStyle}
    {result : MergeResult}
    (clean : style.Clean)
    (tagUnmarked : Marker.Unmarked tag.chars)
    (payloadForeign : ∀ line ∈ Text.lines payload, Marker.Foreign tag line)
    (openerTokenless : ¬ Fingerprint.HoldsToken style.opener.toList)
    (tagTokenless : ¬ Fingerprint.HoldsToken tag.chars)
    (merged : addOrUpdate text tag.name anchor payload style = .ok result) :
    (result.merged = true →
      ∃ block, Reread text result.contents tag anchor payload block) ∧
      addOrUpdate result.contents tag.name anchor payload style =
        .ok (.unchanged result.contents) := by
  have returns_eq :
      usesReturns (Text.lines text) = decide (['\r', '\n'] <:+: text.toList) := by
    rw [Bool.eq_iff_iff, Text.usesReturns_iff, decide_eq_true_iff]
  have again : ∀ {block : Block} {contents : String},
      Block.find? tag (Text.lines contents) = some block →
        block.isCurrent payload = true →
        addOrUpdate contents tag.name anchor payload style = .ok (.unchanged contents) :=
    fun found current => addOrUpdate_name_eq_ok_iff.mpr (.kept _ found current)
  have fedless : ∀ line ∈ Text.lines text, '\n' ∉ line :=
    fun _ => Text.notMem_of_mem_lines
  cases addOrUpdate_name_eq_ok_iff.mp merged with
  | fresh index absent located =>
      have unpaired :=
        (Block.find?_eq_none_iff.mp absent).sublist (List.take_sublist index _)
      obtain ⟨found, interior, around⟩ :=
        read_placed openerTokenless tagTokenless clean tagUnmarked payloadForeign unpaired
          (Anchor.insertionIndex_le located) fedless (usesReturns (Text.lines text))
      refine
        ⟨fun _ => ⟨placedBlock index payload, found, ?_, rfl, rfl, ?_, ?_⟩,
          again found (isCurrent_placedBlock index payload)⟩
      · simpa [absent, placedBlock] using located
      · rw [interior, returns_eq]
      · rw [around, absent]
  | kept existing found current =>
      exact ⟨fun wrote => (Bool.false_ne_true wrote).elim, again found current⟩
  | replaced existing wasFound stale =>
      have unpaired := Block.unpaired_take_excise wasFound
      have within := Block.first_le_length_excise wasFound
      have outsideFedless : ∀ line ∈ existing.excise (Text.lines text), '\n' ∉ line :=
        existing.forall_mem_excise fedless
      obtain ⟨found, interior, around⟩ :=
        read_placed openerTokenless tagTokenless clean tagUnmarked payloadForeign unpaired
          within outsideFedless (usesReturns (Text.lines text))
      refine
        ⟨fun _ => ⟨placedBlock existing.first payload, found, ?_, rfl, rfl, ?_, ?_⟩,
          again found (isCurrent_placedBlock existing.first payload)⟩
      · simp [wasFound, placedBlock]
      · rw [interior, returns_eq]
      · rw [around, wasFound]

/-- A fresh block in front of a begin marker that is left over from an older one. -/
theorem addOrUpdate_again_leftover :
    ∃ result,
      addOrUpdate "x\r\n# @generated begin a - old\r\ny" "a" (.literal "x" .before "") "p"
          .default = .ok result ∧
        (∃ block,
          Reread "x\r\n# @generated begin a - old\r\ny" result.contents ⟨"a", by decide⟩
            (.literal "x" .before "") "p" block) ∧
        addOrUpdate result.contents "a" (.literal "x" .before "") "p" .default =
          .ok (.unchanged result.contents) := by
  have payloadForeign :
      ∀ line ∈ Text.lines "p", Marker.Foreign ⟨"a", by decide⟩ line := by
    intro line member
    rw [show Text.lines "p" = [['p']] from rfl, List.mem_singleton] at member
    subst line
    exact Marker.foreign_of_unmarked (Marker.unmarked_of_notMem (by decide)) _
  have outcome :
      Outcome "x\r\n# @generated begin a - old\r\ny" ⟨"a", by decide⟩
        (.literal "x" .before "") "p" .default _ :=
    .fresh 0 (by decide) (by decide)
  have merged := addOrUpdate_name_eq_ok_iff.mpr outcome
  have written :=
    addOrUpdate_again CommentStyle.clean_default (Marker.unmarked_of_notMem (by decide))
      payloadForeign
      (Fingerprint.not_holdsToken_of_length_lt (by decide))
      (Fingerprint.not_holdsToken_of_length_lt (by decide)) merged
  exact ⟨_, merged, written.1 rfl, written.2⟩

end Merge

end BlockSync
