import BlockSync.Proofs.Block.Recovered
import BlockSync.Proofs.Merge.Reread
import BlockSync.Proofs.Merge.Reversal
import BlockSync.Proofs.Text.Crlf

namespace BlockSync

/-!
# Merging into texts of either spelling

Whether the lines of a text end in a line feed or in a carriage return and a line feed makes no
difference to what a merge does.  Markers, fingerprints and anchors are found in the same lines, and
every line of a block is spelled as the lines around it.
-/

namespace Block

variable {tag : Tag}

/-- An empty line at the end of a file is in no block. -/
theorem last_lt_of_find?_concat_nil
    {lines : List Text.Line}
    {block : Block}
    (found : find? tag (lines ++ [[]]) = some block) :
    block.last < lines.length := by
  obtain ⟨before, region, after, shape, stands, rfl⟩ := find?_eq_some_iff.mp found
  have length := congrArg List.length shape
  have last := last_ofRegion before stands.isRegion
  have two := stands.isRegion.two_le_length
  cases after with
  | nil =>
      obtain ⟨marker, inner, stop, rfl, _, _, closes⟩ := stands.isRegion
      have endings : lines ++ [[]] = (before ++ marker :: inner) ++ [stop] := by
        simpa using shape
      obtain rfl : [] = stop := by
        simpa using (List.append_inj' endings rfl).2
      have foreign :=
        Marker.foreign_of_unmarked (Marker.unmarked_of_notMem List.not_mem_nil) tag
      rw [foreign.notCloses] at closes
      cases closes
  | cons line rest =>
      simp only [List.length_append, List.length_cons, List.length_nil] at length
      omega

/-- A block that ends above the last line is taken out of the lines above it. -/
theorem excise_concat
    {block : Block}
    {lines : List Text.Line}
    (ordered : block.first ≤ block.last)
    (within : block.last < lines.length)
    (last : Text.Line) :
    block.excise (lines ++ [last]) = block.excise lines ++ [last] := by
  rw [excise, excise, List.take_append_of_le_length (by omega),
    List.drop_append_of_le_length (by omega), List.append_assoc]

/-- A block is taken out in either spelling. -/
theorem excise_returned
    {block : Block}
    {lines : List Text.Line}
    (ordered : block.first ≤ block.last)
    (within : block.last < lines.length)
    (last : Text.Line) :
    block.excise (Text.returned (lines ++ [last])) =
      Text.returned (block.excise (lines ++ [last])) := by
  have withinEnded : block.last < (lines.map (· ++ ['\r'])).length := by
    rwa [List.length_map]
  rw [Text.returned_concat, excise_concat ordered withinEnded, excise_concat ordered within,
    Text.returned_concat, excise, excise, List.map_append, List.map_take, List.map_drop]

end Block

namespace Anchor

variable {anchor : Anchor}

/-- Lines without carriage returns are matched alike with carriage returns behind them. -/
private theorem hitsFrom_of_same
    {lines others : List Text.Line}
    (same : List.Forall₂ Text.SameUpToReturn lines others)
    (returnless : ∀ line ∈ others, '\r' ∉ line)
    (index : Nat) :
    anchor.hitsFrom index lines = anchor.hitsFrom index others := by
  induction same generalizing index with
  | nil =>
      rfl
  | @cons ended line rest others sameLine _ inductionHypothesis =>
      rw [List.forall_mem_cons] at returnless
      have sameMatch : anchor.matchesLine ended = anchor.matchesLine line := by
        rcases sameLine with rfl | rfl
        · rfl
        · exact matchesLine_append_return returnless.1
      rw [hitsFrom, hitsFrom, sameMatch, inductionHypothesis returnless.2]

/-- An anchor matches the same lines in either spelling. -/
theorem hits_returned
    {lines : List Text.Line}
    (returnless : ∀ line ∈ lines, '\r' ∉ line) :
    anchor.hits (Text.returned lines) = anchor.hits lines :=
  hitsFrom_of_same (Text.sameUpToReturn_returned lines) returnless 0

/-- Lines are placed above an empty line at the end of a file, unless that line is the anchor. -/
theorem indexBeside_le_of_hits
    {lines : List Text.Line}
    {line : Nat}
    (hit : anchor.hits (lines ++ [[]]) = [line])
    (sparesEnd : anchor.placement = .after → anchor.matchesLine [] = false) :
    anchor.indexBeside line ≤ lines.length := by
  have member : line ∈ anchor.hitsFrom 0 (lines ++ [[]]) := by
    rw [← hits, hit]
    exact List.mem_singleton_self line
  cases side : anchor.placement with
  | before =>
      have bounds := bounds_of_mem_hitsFrom member
      simp only [List.length_append, List.length_singleton] at bounds
      simp only [indexBeside, side]
      omega
  | after =>
      have endUnmatched : anchor.hitsFrom (0 + lines.length) [[]] = [] :=
        hitsFrom_eq_nil _ (by simpa using sparesEnd side)
      rw [hitsFrom_append, endUnmatched, List.append_nil] at member
      have bounds := bounds_of_mem_hitsFrom member
      simp only [indexBeside, side]
      omega

end Anchor

/-- The failure of an anchor in the other spelling of the text. -/
def AnchorError.crlf : AnchorError → AnchorError
  | .notFound description contents => .notFound description (Text.crlf contents)
  | .ambiguous description contents lines => .ambiguous description (Text.crlf contents) lines

/-- The failure of a merge in the other spelling of the text. -/
def MergeError.crlf : MergeError → MergeError
  | .invalidTag error => .invalidTag error
  | .unencodable error => .unencodable error
  | .anchor error => .anchor error.crlf

/-- The result of a merge in the other spelling of the text. -/
def MergeResult.crlf (result : MergeResult) : MergeResult :=
  { result with contents := Text.crlf result.contents }

namespace Merge

variable
  {tag : Tag}
  {anchor : Anchor}
  {payload : String}
  {style : CommentStyle}
  {lines : List Text.Line}
  {index : Nat}
  {text : String}

/-- A block above the last line of a file is written in the spelling of the file. -/
theorem placed_returned
    (within : index ≤ lines.length)
    (last : Text.Line)
    (tag : Tag)
    (payload : String)
    (style : CommentStyle) :
    placed true (Text.returned (lines ++ [last])) index tag payload style =
      Text.returned (placed false (lines ++ [last]) index tag payload style) := by
  have followed :
      decide ((lines.map (· ++ ['\r']) ++ [last]).length ≤ index) = false := by
    rw [List.length_append, List.length_map, List.length_singleton]
    exact decide_eq_false (by omega)
  have block :
      written true false tag payload style =
        (Block.render tag payload style).map (· ++ ['\r']) := by
    simp [written_eq, Block.render, Text.ending]
  have above : index ≤ (lines.map (· ++ ['\r'])).length := by
    rwa [List.length_map]
  have plainShape :
      placed false (lines ++ [last]) index tag payload style =
        (lines.take index ++ (Block.render tag payload style ++ lines.drop index)) ++
          [last] := by
    rw [placed, List.take_append_of_le_length within, List.drop_append_of_le_length within]
    simp [written]
  rw [plainShape, Text.returned_concat, Text.returned_concat, placed, followed, block,
    List.take_append_of_le_length above, List.drop_append_of_le_length above]
  simp [List.map_take, List.map_drop]

/-- The text with a block in it, in the other spelling. -/
theorem ofLines_placed_returned
    (lacksFeed : style.Lacks '\n')
    (fedless : ∀ line ∈ lines, '\n' ∉ line)
    (within : index ≤ lines.length)
    (tag : Tag)
    (payload : String) :
    Text.ofLines (placed true (Text.returned (lines ++ [[]])) index tag payload style) =
      Text.crlf (Text.ofLines (placed false (lines ++ [[]]) index tag payload style)) := by
  have hostFedless : ∀ line ∈ lines ++ [[]], '\n' ∉ line := by
    simpa [or_imp, forall_and] using fedless
  rw [placed_returned within,
    Text.crlf_ofLines (fedless_placed lacksFeed hostFedless false index tag payload)]

/-- The lines of a text that ends in a line feed and holds no carriage return. -/
private theorem exists_plain_lines
    (returnless : '\r' ∉ text.toList)
    (endsInFeed : text.toList.getLast? = some '\n') :
    ∃ lines,
      Text.lines text = lines ++ [[]] ∧
        (∀ line ∈ lines ++ [[]], '\r' ∉ line) ∧
        (∀ line ∈ lines ++ [[]], '\n' ∉ line) ∧
        usesReturns (lines ++ [[]]) = false ∧
        usesReturns (Text.returned (lines ++ [[]])) = true := by
  obtain ⟨first, rest, shape⟩ := Text.exists_lines_eq_concat_nil endsInFeed
  have linesReturnless : ∀ line ∈ Text.lines text, '\r' ∉ line :=
    fun line member isReturn => returnless ((Text.infix_of_mem_lines member).subset isReturn)
  have linesFedless : ∀ line ∈ Text.lines text, '\n' ∉ line :=
    fun _ => Text.notMem_of_mem_lines
  have unused : usesReturns (Text.lines text) = false :=
    Text.usesReturns_eq_false fun line member isReturn =>
      linesReturnless line member (List.mem_of_getLast? isReturn)
  rw [shape] at linesReturnless linesFedless unused
  refine ⟨first :: rest, shape, linesReturnless, linesFedless, unused, ?_⟩
  rw [Text.returned_concat, usesReturns, List.dropLast_concat]
  simp

/-- The merge of a valid tag does the same in either spelling of the text. -/
theorem addTagged_crlf
    (returnless : '\r' ∉ text.toList)
    (endsInFeed : text.toList.getLast? = some '\n')
    (lacksFeed : style.Lacks '\n')
    (sparesEnd : anchor.placement = .after → anchor.matchesLine [] = false)
    (tag : Tag)
    (payload : String) :
    addTagged (Text.crlf text) tag anchor payload style =
      ((addTagged text tag anchor payload style).mapError AnchorError.crlf).map
        MergeResult.crlf := by
  obtain ⟨lines, shape, linesReturnless, linesFedless, unused, used⟩ :=
    exists_plain_lines returnless endsInFeed
  have aboveFedless : ∀ line ∈ lines, '\n' ∉ line :=
    fun line member => linesFedless line (List.mem_append_left _ member)
  simp only [addTagged, splice_render, Anchor.insertionIndex_eq, Text.lines_crlf, shape,
    Block.find?_returned, Anchor.hits_returned linesReturnless, unused, used]
  cases found : Block.find? tag (lines ++ [[]]) with
  | none =>
      cases hits : anchor.hits (lines ++ [[]]) with
      | nil =>
          rfl
      | cons line others =>
          cases others with
          | nil =>
              have within := Anchor.indexBeside_le_of_hits hits sparesEnd
              have sameText :=
                ofLines_placed_returned lacksFeed aboveFedless within tag payload
              exact
                congrArg (fun contents => Except.ok (MergeResult.mk contents true false))
                  sameText
          | cons second others =>
              rfl
  | some existing =>
      have bounds := Block.bounds_of_find? found
      have ordered := bounds.1.le
      have above := Block.last_lt_of_find?_concat_nil found
      have within : existing.first ≤ (existing.excise lines).length := by
        rw [Block.excise, List.length_append, List.length_take]
        omega
      have outsideFedless : ∀ line ∈ existing.excise lines, '\n' ∉ line :=
        existing.forall_mem_excise aboveFedless
      have sameText :=
        ofLines_placed_returned lacksFeed outsideFedless within tag payload
      dsimp only
      rw [Block.excise_returned ordered above, Block.excise_concat ordered above, sameText]
      split <;> rfl

/-- Taking out a valid tag does the same in either spelling of the text. -/
theorem removeTagged_crlf
    (returnless : '\r' ∉ text.toList)
    (endsInFeed : text.toList.getLast? = some '\n')
    (tag : Tag) :
    removeTagged (Text.crlf text) tag = (removeTagged text tag).crlf := by
  obtain ⟨lines, shape, _, linesFedless, _, _⟩ := exists_plain_lines returnless endsInFeed
  simp only [removeTagged, Text.lines_crlf, shape, Block.find?_returned]
  cases found : Block.find? tag (lines ++ [[]]) with
  | none =>
      rfl
  | some existing =>
      have bounds := Block.bounds_of_find? found
      have above := Block.last_lt_of_find?_concat_nil found
      have outsideFedless : ∀ line ∈ existing.excise (lines ++ [[]]), '\n' ∉ line :=
        existing.forall_mem_excise linesFedless
      simp only [Block.excise_returned bounds.1.le above, MergeResult.crlf,
        Text.crlf_ofLines outsideFedless]

/--
Whether a call puts its block above the empty line at the end of a text, and into lines that only
their line feeds end.
-/
def Call.SparesEnd : Call → Prop
  | .addOrUpdate _ anchor _ style =>
      style.Lacks '\n' ∧ (anchor.placement = .after → anchor.matchesLine [] = false)
  | .remove _ =>
      True

/--
A call does the same in either spelling of a text that ends in a line feed: it fails for the same
reason and with the same lines, or it succeeds with the same flags and with the same text in that
spelling.
-/
theorem Call.run_crlf
    {call : Call}
    (returnless : '\r' ∉ text.toList)
    (endsInFeed : text.toList.getLast? = some '\n')
    (sparesEnd : call.SparesEnd) :
    call.run (Text.crlf text) =
      ((call.run text).mapError MergeError.crlf).map MergeResult.crlf := by
  cases call with
  | addOrUpdate tag anchor payload style =>
      obtain ⟨lacksFeed, sparesFinal⟩ := sparesEnd
      have same := addTagged_crlf returnless endsInFeed lacksFeed sparesFinal tag payload
      rw [Call.run, Call.run, addOrUpdate_name_eq, addOrUpdate_name_eq, same]
      cases addTagged text tag anchor payload style <;> rfl
  | remove tag =>
      rw [Call.run, Call.run, remove_name_eq, remove_name_eq,
        removeTagged_crlf returnless endsInFeed]
      rfl

/-- A text with a block that carries no fingerprint. -/
def staleText : String :=
  "x\n# @generated begin r -\nold\n# @generated end r\n"

/-- A call that puts a new block in the place of the one without a fingerprint. -/
def refresh : Call :=
  .addOrUpdate ⟨"r", by decide⟩ (.literal "x" .after "") "new" .default

/-- A stale block is replaced in either spelling. -/
theorem Call.run_crlf_stale :
    ∃ contents,
      refresh.run staleText = .ok ⟨contents, true, true⟩ ∧
        refresh.run (Text.crlf staleText) = .ok ⟨Text.crlf contents, true, true⟩ := by
  have outcome :
      Outcome staleText ⟨"r", by decide⟩ (.literal "x" .after "") "new" .default _ :=
    .replaced ⟨1, 3, none⟩ (by decide) rfl
  have ran : refresh.run staleText = .ok _ :=
    addOrUpdate_name_eq_ok_iff.mpr outcome
  have sparesEnd : refresh.SparesEnd :=
    ⟨by decide, by decide⟩
  have returnless : '\r' ∉ staleText.toList := by
    decide
  have endsInFeed : staleText.toList.getLast? = some '\n' := by
    decide
  have same := Call.run_crlf returnless endsInFeed sparesEnd
  rw [ran] at same
  exact ⟨_, ran, same⟩

end Merge

end BlockSync
