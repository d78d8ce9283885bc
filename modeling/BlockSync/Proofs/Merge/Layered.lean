import BlockSync.Proofs.Merge.Outcome

namespace BlockSync

/-!
# Texts with generated blocks

Merging and removing only ever add generated blocks to the lines of a host text and take them out
again.  A block may stand between two lines of another one, and is then taken out with it.  Markers
of the host text that belong to no block stay where they are and make no difference.
-/

namespace Merge

/--
Lines of a host text with generated blocks in them, put in one after another.  The tags of the
blocks that are still there are listed, the newest first.
-/
inductive Layered (host : List Text.Line) : List Tag → List Text.Line → Prop where
  | host :
      Layered host [] host
  | insert {tag : Tag} {live : List Tag} {before block after : List Text.Line} :
      Layered host live (before ++ after) →
      tag ∉ live →
      Block.Generated tag block →
      Layered host (tag :: live) (before ++ (block ++ after))

namespace Layered

variable {host lines : List Text.Line} {live : List Tag} {tag : Tag}

/-- The lines of the host text are kept, in their order. -/
theorem sublist (layered : Layered host live lines) : host.Sublist lines := by
  induction layered with
  | host =>
      exact List.Sublist.refl host
  | @insert _ _ before block after _ _ _ inductionHypothesis =>
      exact inductionHypothesis.trans
        ((List.Sublist.refl before).append (List.sublist_append_right block after))

/-- Blocks do not bring line feeds into lines. -/
theorem fedless
    (layered : Layered host live lines)
    (hostFedless : ∀ line ∈ host, '\n' ∉ line) :
    ∀ line ∈ lines, '\n' ∉ line := by
  induction layered with
  | host =>
      exact hostFedless
  | insert _ _ generated inductionHypothesis =>
      intro line member
      simp only [List.mem_append] at member
      rcases member with inBefore | inBlock | inAfter
      · exact inductionHypothesis line (List.mem_append_left _ inBefore)
      · exact generated.fedless line inBlock
      · exact inductionHypothesis line (List.mem_append_right _ inAfter)

/-- Lines with blocks in the lines of a text are again the lines of a text. -/
theorem lines_ofLines
    {text : String}
    (layered : Layered (Text.lines text) live lines) :
    Text.lines (Text.ofLines lines) = lines := by
  apply Text.lines_ofLines
  · rintro rfl
    exact Text.lines_ne_nil text (List.sublist_nil.mp layered.sublist)
  · exact layered.fedless fun _ => Text.notMem_of_mem_lines

/-- A marker of one kind stands once more in the lines than in the host text, if its tag is live. -/
private theorem countP_eq
    {holds : Text.Line → Bool}
    (onBlocks : ∀ other block,
      Block.Generated other block → block.countP holds = if tag = other then 1 else 0)
    (layered : Layered host live lines) :
    lines.countP holds = host.countP holds + if tag ∈ live then 1 else 0 := by
  induction layered with
  | host =>
      simp
  | @insert other live before block after _ fresh generated inductionHypothesis =>
      rw [List.countP_append] at inductionHypothesis
      rw [List.countP_append, List.countP_append, onBlocks other block generated]
      by_cases same : tag = other
      · subst same
        rw [if_neg fresh] at inductionHypothesis
        rw [if_pos rfl, if_pos List.mem_cons_self]
        omega
      · rw [if_neg same]
        simp only [List.mem_cons, same, false_or]
        omega

/-- A live tag has one begin marker more than in the host text, any other tag none. -/
theorem countP_isBegin (layered : Layered host live lines) :
    lines.countP (Marker.isBegin tag) =
      host.countP (Marker.isBegin tag) + if tag ∈ live then 1 else 0 :=
  layered.countP_eq fun _ _ generated => generated.begins tag

/-- A live tag has one end marker more than in the host text, any other tag none. -/
theorem countP_isEnd (layered : Layered host live lines) :
    lines.countP (Marker.isEnd tag) =
      host.countP (Marker.isEnd tag) + if tag ∈ live then 1 else 0 :=
  layered.countP_eq fun _ _ generated => generated.ends tag

/-- A tag that is not live has no block, as in the host text. -/
theorem unpaired
    (layered : Layered host live lines)
    (absent : tag ∉ live)
    (hostUnpaired : Block.Unpaired tag host) :
    Block.Unpaired tag lines := by
  induction layered with
  | host =>
      exact hostUnpaired
  | insert _ _ generated inductionHypothesis =>
      rw [List.mem_cons, not_or] at absent
      exact (inductionHypothesis absent.2).insert (generated.foreign absent.1)

/--
The block of a live tag can be taken out as if it had never been put in.  Blocks between its lines
go with it.
-/
theorem exists_block
    (layered : Layered host live lines)
    (isLive : tag ∈ live)
    (hostUnpaired : Block.Unpaired tag host) :
    ∃ before region after rest,
      lines = before ++ (region ++ after) ∧
        Block.Stands tag before region ∧
        Layered host rest (before ++ after) ∧
        tag ∉ rest ∧
        rest ⊆ live := by
  induction layered with
  | host =>
      cases isLive
  | @insert other live upper block lower layered fresh generated inductionHypothesis =>
      by_cases same : tag = other
      · subst same
        have unpaired := layered.unpaired fresh hostUnpaired
        exact
          ⟨upper, block, lower, live, rfl,
            ⟨unpaired.sublist (List.sublist_append_left upper lower), generated.isRegion⟩,
            layered, fresh, List.subset_cons_self tag live⟩
      · have foreign := generated.foreign same
        obtain ⟨before, region, after, rest, shape, stands, restLayered, notInRest,
            restLive⟩ :=
          inductionHypothesis ((List.mem_cons.mp isLive).resolve_left same)
        have freshInRest : other ∉ rest :=
          fun inRest => fresh (restLive inRest)
        have notInMore : tag ∉ other :: rest := by
          simp [same, notInRest]
        have moreLive : other :: rest ⊆ other :: live :=
          List.cons_subset_cons other restLive
        -- The newer block lies above the one of the tag, below it, or between two of its lines.
        rcases Block.cut_cases shape with
            ⟨gap, rfl, rfl⟩ | ⟨gap, rfl, rfl⟩ |
              ⟨front, back, rfl, frontNonempty, backNonempty, rfl, rfl⟩
        · refine
            ⟨upper ++ (block ++ gap), region, after, other :: rest, by simp,
              stands.insert_above foreign, ?_, notInMore, moreLive⟩
          rw [List.append_assoc] at restLayered
          simpa using restLayered.insert freshInRest generated
        · refine
            ⟨before, region, gap ++ (block ++ lower), other :: rest, by simp, stands, ?_,
              notInMore, moreLive⟩
          rw [← List.append_assoc] at restLayered
          simpa using restLayered.insert freshInRest generated
        · exact
            ⟨before, front ++ (block ++ back), after, rest, by simp,
              stands.insert_inside frontNonempty backNonempty foreign, restLayered,
              notInRest, List.subset_cons_of_subset other restLive⟩

/-- A tag without a block is not live. -/
theorem notMem_of_find?_eq_none
    (layered : Layered host live lines)
    (hostUnpaired : Block.Unpaired tag host)
    (absent : Block.find? tag lines = none) :
    tag ∉ live := by
  intro isLive
  obtain ⟨before, region, after, _, rfl, stands, _⟩ :=
    layered.exists_block isLive hostUnpaired
  rw [stands.find?_eq] at absent
  cases absent

/-- Taking out the block of a tag leaves the host text with some of the other blocks. -/
theorem excise
    {existing : Block}
    (layered : Layered host live lines)
    (hostUnpaired : Block.Unpaired tag host)
    (found : Block.find? tag lines = some existing) :
    ∃ rest,
      Layered host rest (existing.excise lines) ∧ tag ∉ rest ∧ rest ⊆ live := by
  have isLive : tag ∈ live := by
    by_contra notLive
    rw [Block.find?_eq_none_iff.mpr (layered.unpaired notLive hostUnpaired)] at found
    cases found
  obtain ⟨before, region, after, rest, rfl, stands, restLayered, notInRest, restLive⟩ :=
    layered.exists_block isLive hostUnpaired
  rw [stands.find?_eq, Option.some.injEq] at found
  subst existing
  rw [Block.excise_ofRegion stands.isRegion]
  exact ⟨rest, restLayered, notInRest, restLive⟩

/-- A written block of a tag that is not live makes it live. -/
theorem placed
    (layered : Layered host live lines)
    (fresh : tag ∉ live)
    {payload : String}
    {style : CommentStyle}
    (clean : style.Clean)
    (tagUnmarked : Marker.Unmarked tag.chars)
    (payloadUnmarked : Marker.Unmarked payload.toList)
    (returns : Bool)
    (index : Nat) :
    Layered host (tag :: live) (placed returns lines index tag payload style) := by
  rw [← List.take_append_drop index lines] at layered
  exact layered.insert fresh (generated_written clean tagUnmarked payloadUnmarked _ _)

end Layered

section Steps

variable {host text : String} {live : List Tag} {tag : Tag}

/-- A merge leaves the host text with blocks in it, none of them of a new tag but its own. -/
theorem Outcome.layered
    {anchor : Anchor}
    {payload : String}
    {style : CommentStyle}
    {result : MergeResult}
    (outcome : Outcome text tag anchor payload style result)
    (layered : Layered (Text.lines host) live (Text.lines text))
    (hostUnpaired : Block.Unpaired tag (Text.lines host))
    (clean : style.Clean)
    (tagUnmarked : Marker.Unmarked tag.chars)
    (payloadUnmarked : Marker.Unmarked payload.toList) :
    ∃ later,
      Layered (Text.lines host) later (Text.lines result.contents) ∧
        later ⊆ tag :: live := by
  cases outcome with
  | fresh index absent _ =>
      have notLive := layered.notMem_of_find?_eq_none hostUnpaired absent
      have placed := layered.placed notLive clean tagUnmarked payloadUnmarked
        (usesReturns (Text.lines text)) index
      exact ⟨tag :: live, by rwa [placed.lines_ofLines], List.Subset.refl _⟩
  | kept =>
      exact ⟨live, layered, List.subset_cons_self tag live⟩
  | replaced existing found _ =>
      obtain ⟨rest, restLayered, notInRest, restLive⟩ := layered.excise hostUnpaired found
      have placed := restLayered.placed notInRest clean tagUnmarked payloadUnmarked
        (usesReturns (Text.lines text)) existing.first
      exact
        ⟨tag :: rest, by rwa [placed.lines_ofLines], List.cons_subset_cons tag restLive⟩

/-- Taking out a tag leaves the host text with some of the other blocks. -/
theorem Layered.removeTagged
    (layered : Layered (Text.lines host) live (Text.lines text))
    (hostUnpaired : Block.Unpaired tag (Text.lines host)) :
    ∃ rest,
      Layered (Text.lines host) rest (Text.lines (removeTagged text tag).contents) ∧
        tag ∉ rest ∧
        rest ⊆ live := by
  simp only [Merge.removeTagged]
  cases found : Block.find? tag (Text.lines text) with
  | none =>
      exact
        ⟨live, layered, layered.notMem_of_find?_eq_none hostUnpaired found,
          List.Subset.refl live⟩
  | some existing =>
      obtain ⟨rest, restLayered, notInRest, restLive⟩ := layered.excise hostUnpaired found
      exact ⟨rest, by rwa [restLayered.lines_ofLines], notInRest, restLive⟩

/-- A host text without any block in it is unchanged. -/
theorem Layered.eq_host
    (layered : Layered (Text.lines host) [] (Text.lines text)) :
    text = host := by
  generalize shape : Text.lines text = lines at layered
  cases layered
  exact Text.eq_of_lines_eq shape

end Steps

end Merge

end BlockSync
