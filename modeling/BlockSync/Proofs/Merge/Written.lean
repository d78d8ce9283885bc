import BlockSync.Merge
import BlockSync.Proofs.Block.Rendered
import BlockSync.Proofs.Block.Scan
import BlockSync.Proofs.Text.Lines

namespace BlockSync

/-!
# Written blocks

The lines of a block are written with the carriage returns of the text around them.  They are a
region of their tag, they hold no marker of another tag, and no line feed, so they are found again
as the block they were written as.
-/

namespace Text

/-- What stands behind a line in front of its line feed. -/
def ending (returns : Bool) : List Char :=
  if returns then ['\r'] else []

/-- The ending of a line holds no line feed. -/
theorem fedless_ending (returns : Bool) : '\n' ∉ ending returns := by
  cases returns <;> decide

end Text

namespace Marker

/-- What ends a line may stand behind a begin marker. -/
theorem isLineEnd_ending (returns : Bool) : IsLineEnd (Text.ending returns) := by
  cases returns <;> simp [IsLineEnd, Text.ending]

/-- What ends a line neither makes nor spoils a begin marker. -/
@[simp] theorem isBegin_append_ending
    (tag : Tag)
    (line : Text.Line)
    (returns : Bool) :
    isBegin tag (line ++ Text.ending returns) = isBegin tag line := by
  cases returns <;> simp [Text.ending]

/-- What ends a line neither makes nor spoils an end marker. -/
@[simp] theorem isEnd_append_ending
    (tag : Tag)
    (line : Text.Line)
    (returns : Bool) :
    isEnd tag (line ++ Text.ending returns) = isEnd tag line := by
  cases returns <;> simp [Text.ending]

/-- A foreign line is foreign whatever ends it. -/
theorem Foreign.append_ending
    {tag : Tag}
    {line : Text.Line}
    (foreign : Foreign tag line)
    (returns : Bool) :
    Foreign tag (line ++ Text.ending returns) where
  notBegin := by
    rw [isBegin_append_ending, foreign.notBegin]
  notEnd := by
    rw [isEnd_append_ending, foreign.notEnd]

/-- A line is foreign exactly if it is so whatever ends it. -/
theorem foreign_append_ending_iff
    {tag : Tag}
    {line : Text.Line}
    {returns : Bool} :
    Foreign tag (line ++ Text.ending returns) ↔ Foreign tag line := by
  constructor
  · intro foreign
    have notBegin := foreign.notBegin
    have notEnd := foreign.notEnd
    rw [isBegin_append_ending] at notBegin
    rw [isEnd_append_ending] at notEnd
    exact ⟨notBegin, notEnd⟩
  · exact fun foreign => foreign.append_ending returns

/-- A line without the keyword of markers is foreign to every tag. -/
theorem foreign_of_unmarked
    {line : Text.Line}
    (unmarked : Unmarked line)
    (tag : Tag) :
    Foreign tag line where
  notBegin :=
    isBegin_eq_false unmarked tag
  notEnd :=
    isEnd_eq_false unmarked tag

/-- The lines of a text without the keyword lack it. -/
theorem Unmarked.of_mem_lines
    {text : String}
    {line : Text.Line}
    (unmarked : Unmarked text.toList)
    (member : line ∈ Text.lines text) :
    Unmarked line :=
  unmarked.of_infix (Text.infix_of_mem_lines member)

/-- A character that markers hold only where they quote a tag or a comment style. -/
def Unspoken (c : Char) : Prop :=
  c ∉ "@generated begin end - tagmark (DO NOT MODIFY)".toList ++ Fingerprint.leader ∧
    Fingerprint.digitTest.accepts c = false

/-- Whether a character is in the wording of markers can be computed. -/
instance (c : Char) : Decidable (Unspoken c) :=
  inferInstanceAs (Decidable (_ ∧ _))

variable {tag : Tag} {style : CommentStyle} {c : Char}

/-- An unspoken character is in none of the words of a marker. -/
private theorem Unspoken.notMem_words (unspoken : Unspoken c) :
    c ≠ ' ' ∧ c ∉ keyword ∧ c ∉ "begin".toList ∧ c ∉ "end".toList ∧
      c ∉ "- tagmark (DO NOT MODIFY)".toList := by
  have parts :
      "@generated begin end - tagmark (DO NOT MODIFY)".toList =
        keyword ++ ' ' :: ("begin".toList ++ ' ' :: ("end".toList ++
          ' ' :: "- tagmark (DO NOT MODIFY)".toList)) := by
    decide
  have unspokenPart := unspoken.1
  rw [parts] at unspokenPart
  simp only [List.mem_append, List.mem_cons, not_or] at unspokenPart
  obtain ⟨⟨notKeyword, notSpace, notBegin, -, notEnd, -, notNotice⟩, -⟩ := unspokenPart
  exact ⟨notSpace, notKeyword, notBegin, notEnd, notNotice⟩

/-- An unspoken character is in a begin marker only if the tag or the comment style has it. -/
theorem notMem_renderBegin
    (unspoken : Unspoken c)
    (notInTag : c ∉ tag.chars)
    (lacks : style.Lacks c)
    (payload : String) :
    c ∉ renderBegin tag.name payload style := by
  obtain ⟨notSpace, notKeyword, notBegin, -, notNotice⟩ := unspoken.notMem_words
  have notDigest : c ∉ Fingerprint.ofPayload payload :=
    (Fingerprint.isToken_ofPayload payload).notMem
      (fun isLeading => unspoken.1 (List.mem_append_right _ isLeading)) unspoken.2
  rw [renderBegin_eq]
  apply CommentStyle.notMem_wrap lacks notSpace
  rw [beginBody]
  simp only [List.mem_append, List.mem_cons, not_or]
  exact
    ⟨notKeyword, notSpace, notBegin, notSpace, notInTag, notSpace, notNotice, notSpace,
      notDigest⟩

/-- An unspoken character is in an end marker only if the tag or the comment style has it. -/
theorem notMem_renderEnd
    (unspoken : Unspoken c)
    (notInTag : c ∉ tag.chars)
    (lacks : style.Lacks c) :
    c ∉ renderEnd tag.name style := by
  obtain ⟨notSpace, notKeyword, -, notEnd, -⟩ := unspoken.notMem_words
  rw [renderEnd_eq]
  apply CommentStyle.notMem_wrap lacks notSpace
  rw [endBody]
  simp only [List.mem_append, List.mem_cons, not_or]
  exact ⟨notKeyword, notSpace, notEnd, notSpace, notInTag⟩

end Marker

namespace Block

/-- Lines that are a block of one tag, and hold no other marker of any tag. -/
structure Generated (tag : Tag) (region : List Text.Line) : Prop where
  isRegion :
    IsRegion tag region
  begins :
    ∀ other, region.countP (Marker.isBegin other) = if other = tag then 1 else 0
  ends :
    ∀ other, region.countP (Marker.isEnd other) = if other = tag then 1 else 0
  fedless :
    ∀ line ∈ region, '\n' ∉ line

/-- The block of one tag is foreign to every other tag. -/
theorem Generated.foreign
    {tag other : Tag}
    {region : List Text.Line}
    (generated : Generated tag region)
    (different : other ≠ tag) :
    ∀ line ∈ region, Marker.Foreign other line := by
  have noBegin := generated.begins other
  have noEnd := generated.ends other
  rw [if_neg different, List.countP_eq_zero] at noBegin noEnd
  intro line member
  exact ⟨by simpa using noBegin line member, by simpa using noEnd line member⟩

/-- Lines that are put together to a text hold the same block; no lines become an empty one. -/
theorem find?_lines_ofLines
    {lines : List Text.Line}
    (fedless : ∀ line ∈ lines, '\n' ∉ line)
    (tag : Tag) :
    find? tag (Text.lines (Text.ofLines lines)) = find? tag lines := by
  cases lines with
  | nil =>
      have noBlock : find? tag [] = none :=
        rfl
      have oneLine : Text.lines (Text.ofLines []) = [[]] :=
        rfl
      rw [noBlock, oneLine, find?_eq_none_iff]
      apply unpaired_of_not_closes
      intro line member
      rw [List.mem_singleton.mp member]
      exact (Marker.foreign_of_unmarked (Marker.unmarked_of_notMem (by simp)) tag).notCloses
  | cons line others =>
      rw [Text.lines_ofLines (List.cons_ne_nil line others) fedless]

end Block

namespace Merge

/-- The lines of a rendered block as they are written into a text. -/
def written
    (returns isLast : Bool)
    (tag : Tag)
    (payload : String)
    (style : CommentStyle) :
    List Text.Line :=
  let block := Block.render tag payload style
  if returns then withReturns isLast block else block

/-- Every line of a block gets a carriage return, the last one only if another line follows. -/
theorem withReturns_concat
    (isLast : Bool)
    (block : List Text.Line)
    (last : Text.Line) :
    withReturns isLast (block ++ [last]) =
      block.map (· ++ ['\r']) ++ [if isLast then last else last ++ ['\r']] := by
  simp only [withReturns, List.getLast?_concat, List.dropLast_concat]

/-- The lines of a written block: its markers and the payload, each with its ending. -/
theorem written_eq
    (returns isLast : Bool)
    (tag : Tag)
    (payload : String)
    (style : CommentStyle) :
    written returns isLast tag payload style =
      (Marker.renderBegin tag.name payload style ++ Text.ending returns) ::
        ((Text.lines payload).map (· ++ Text.ending returns) ++
          [Marker.renderEnd tag.name style ++ Text.ending (returns && !isLast)]) := by
  have shape :
      Block.render tag payload style =
        (Marker.renderBegin tag.name payload style :: Text.lines payload) ++
          [Marker.renderEnd tag.name style] :=
    rfl
  rw [written, shape, withReturns_concat]
  cases returns with
  | false =>
      simp [Text.ending]
  | true =>
      cases isLast <;> simp [Text.ending]

/-- What is said of lines whatever ends them is said of a block as it was before it is written. -/
theorem countP_written
    {holds : Text.Line → Bool}
    (ignoresEnding : ∀ line returns, holds (line ++ Text.ending returns) = holds line)
    (returns isLast : Bool)
    (tag : Tag)
    (payload : String)
    (style : CommentStyle) :
    (written returns isLast tag payload style).countP holds =
      (Block.render tag payload style).countP holds := by
  have ignored : (holds ∘ fun line => line ++ Text.ending returns) = holds :=
    funext fun line => ignoresEnding line returns
  simp only [written_eq, Block.render, List.countP_cons, List.countP_append,
    List.countP_map, List.countP_nil, ignored, ignoresEnding]

variable {tag : Tag} {payload : String} {style : CommentStyle}

/-- A written block has two lines more than its payload. -/
theorem length_written
    (returns isLast : Bool)
    (tag : Tag)
    (payload : String)
    (style : CommentStyle) :
    (written returns isLast tag payload style).length = (Text.lines payload).length + 2 := by
  simp [written_eq]

/-- A written block is a region of its tag, if its payload holds no marker of the tag. -/
theorem isRegion_written
    (clean : style.Clean)
    (tagUnmarked : Marker.Unmarked tag.chars)
    (payloadForeign : ∀ line ∈ Text.lines payload, Marker.Foreign tag line)
    (returns isLast : Bool) :
    Block.IsRegion tag (written returns isLast tag payload style) := by
  refine ⟨_, _, _, written_eq returns isLast tag payload style, ?_, ?_, ?_⟩
  · rw [Marker.isBegin_append_ending]
    exact (Marker.isBegin_renderBegin_iff clean tagUnmarked payload tag).mpr rfl
  · intro line member
    obtain ⟨content, inPayload, rfl⟩ := List.mem_map.mp member
    exact (payloadForeign content inPayload).append_ending returns
  · rw [Marker.closes, Marker.isEnd_append_ending, Marker.isBegin_append_ending,
      Marker.isBegin_renderEnd clean tagUnmarked,
      (Marker.isEnd_renderEnd_iff clean tagUnmarked tag).mpr rfl]
    rfl

/-- An unspoken character is in a rendered block only if what the block is made of has it. -/
theorem notMem_render
    {c : Char}
    (unspoken : Marker.Unspoken c)
    (notInTag : c ∉ tag.chars)
    (lacks : style.Lacks c)
    (payloadLacks : ∀ line ∈ Text.lines payload, c ∉ line) :
    ∀ line ∈ Block.render tag payload style, c ∉ line := by
  intro line member
  rw [Block.render, List.mem_cons, List.mem_append, List.mem_singleton] at member
  rcases member with rfl | inPayload | rfl
  · exact Marker.notMem_renderBegin unspoken notInTag lacks payload
  · exact payloadLacks line inPayload
  · exact Marker.notMem_renderEnd unspoken notInTag lacks

/-- Every line of a written block is one of the rendered block with an ending. -/
theorem exists_of_mem_written
    {returns isLast : Bool}
    {line : Text.Line}
    (member : line ∈ written returns isLast tag payload style) :
    ∃ content ∈ Block.render tag payload style, ∃ ends, line = content ++ Text.ending ends := by
  rw [written_eq, List.mem_cons, List.mem_append, List.mem_map, List.mem_singleton] at member
  rcases member with rfl | ⟨content, inPayload, rfl⟩ | rfl
  · exact ⟨_, List.mem_cons_self, _, rfl⟩
  · exact ⟨content, by simp [Block.render, inPayload], _, rfl⟩
  · exact ⟨Marker.renderEnd tag.name style, by simp [Block.render], _, rfl⟩

/-- No line of a written block holds a line feed. -/
theorem fedless_written
    (lacksFeed : style.Lacks '\n')
    (tag : Tag)
    (payload : String)
    (returns isLast : Bool) :
    ∀ line ∈ written returns isLast tag payload style, '\n' ∉ line := by
  intro line member
  obtain ⟨content, inBlock, ends, rfl⟩ := exists_of_mem_written member
  have contentFedless : '\n' ∉ content :=
    notMem_render (by decide) (Marker.notMem_chars_of_isBlank (by decide) tag) lacksFeed
      (fun _ => Text.notMem_of_mem_lines) content inBlock
  rw [List.mem_append, not_or]
  exact ⟨contentFedless, Text.fedless_ending ends⟩

/-- A written block holds the markers of its tag and no others, if its payload holds none. -/
theorem generated_written
    (clean : style.Clean)
    (tagUnmarked : Marker.Unmarked tag.chars)
    (payloadUnmarked : Marker.Unmarked payload.toList)
    (returns isLast : Bool) :
    Block.Generated tag (written returns isLast tag payload style) where
  isRegion :=
    isRegion_written clean tagUnmarked
      (fun _ member => Marker.foreign_of_unmarked (payloadUnmarked.of_mem_lines member) tag)
      returns isLast
  begins other := by
    have payloadCount : (Text.lines payload).countP (Marker.isBegin other) = 0 := by
      rw [List.countP_eq_zero]
      intro line member
      simp [Marker.isBegin_eq_false (payloadUnmarked.of_mem_lines member) other]
    have atHead := Marker.isBegin_renderBegin_iff clean tagUnmarked payload other
    rw [countP_written (Marker.isBegin_append_ending other), Block.render,
      List.countP_cons, List.countP_append, payloadCount, List.countP_singleton,
      Marker.isBegin_renderEnd clean tagUnmarked other]
    simp [atHead]
  ends other := by
    have payloadCount : (Text.lines payload).countP (Marker.isEnd other) = 0 := by
      rw [List.countP_eq_zero]
      intro line member
      simp [Marker.isEnd_eq_false (payloadUnmarked.of_mem_lines member) other]
    have atEnd := Marker.isEnd_renderEnd_iff clean tagUnmarked other
    rw [countP_written (Marker.isEnd_append_ending other), Block.render,
      List.countP_cons, List.countP_append, payloadCount, List.countP_singleton,
      Marker.isEnd_renderBegin clean tagUnmarked payload other]
    simp [atEnd]
  fedless :=
    fedless_written clean.lacksFeed tag payload returns isLast

/-- The fingerprint of the payload is read back from the first line of a written block. -/
theorem fingerprint_written
    (openerTokenless : ¬ Fingerprint.HoldsToken style.opener.toList)
    (tagTokenless : ¬ Fingerprint.HoldsToken tag.chars)
    (payload : String)
    (returns isLast : Bool) :
    (written returns isLast tag payload style).head?.bind Fingerprint.find? =
      some (Fingerprint.ofPayload payload) := by
  rw [written_eq, List.head?_cons, Option.bind_some]
  exact
    Marker.find?_renderBegin openerTokenless tagTokenless payload
      (Marker.isLineEnd_ending returns)

end Merge

end BlockSync
