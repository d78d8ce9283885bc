import BlockSync.Proofs.Merge.Reread

namespace BlockSync.Merge

/-!
# Markers in a payload

A payload is written between the markers of its block as it is.  The block is found as it was
written exactly if the payload holds no marker of the block's own tag.  An end marker in the payload
ends the block, so that what stands below it stays in the text when the block is taken out.
-/

variable {tag : Tag} {payload : String} {style : CommentStyle} {lines : List Text.Line}
  {index : Nat}

/-- If a written block is a region of its tag, then its payload holds no marker of the tag. -/
theorem foreign_of_isRegion_written
    {returns isLast : Bool}
    (isRegion : Block.IsRegion tag (written returns isLast tag payload style)) :
    ∀ line ∈ Text.lines payload, Marker.Foreign tag line := by
  obtain ⟨marker, inner, stop, shape, _, foreign, _⟩ := isRegion
  rw [written_eq, List.cons.injEq] at shape
  obtain ⟨rfl, _⟩ := List.append_inj' shape.2 rfl
  intro line member
  exact Marker.foreign_append_ending_iff.mp (foreign _ (List.mem_map_of_mem member))

/-- A written block is found just as it was written exactly if its payload holds no marker. -/
theorem find?_placed_iff
    (openerTokenless : ¬ Fingerprint.HoldsToken style.opener.toList)
    (tagTokenless : ¬ Fingerprint.HoldsToken tag.chars)
    (clean : style.Clean)
    (tagUnmarked : Marker.Unmarked tag.chars)
    (unpaired : Block.Unpaired tag (lines.take index))
    (within : index ≤ lines.length)
    (payload : String)
    (returns : Bool) :
    Block.find? tag (placed returns lines index tag payload style) =
        some (placedBlock index payload) ↔
      ∀ line ∈ Text.lines payload, Marker.Foreign tag line := by
  constructor
  · intro found
    obtain ⟨before, region, after, shape, stands, same⟩ := Block.find?_eq_some_iff.mp found
    -- A region in the same place and of the same length is made of the same lines.
    have first : index = before.length :=
      congrArg Block.first same
    have last : index + (Text.lines payload).length + 1 + 1 = before.length + region.length :=
      (congrArg (·.last + 1) same).trans (Block.last_ofRegion before stands.isRegion)
    rw [placed] at shape
    have aboveLength : (lines.take index).length = before.length := by
      rw [List.length_take, Nat.min_eq_left within, first]
    obtain ⟨_, belowShape⟩ := List.append_inj shape aboveLength
    have regionLength :
        (written returns (decide (lines.length ≤ index)) tag payload style).length =
          region.length := by
      rw [length_written]
      omega
    obtain ⟨rfl, _⟩ := List.append_inj belowShape regionLength
    exact foreign_of_isRegion_written stands.isRegion
  · exact fun foreign =>
      find?_placed openerTokenless tagTokenless clean tagUnmarked foreign unpaired within returns

/-- An end marker in a payload ends the block, and what is below it in the block stays behind. -/
theorem excise_placed_of_closes
    (clean : style.Clean)
    (tagUnmarked : Marker.Unmarked tag.chars)
    (unpaired : Block.Unpaired tag (lines.take index))
    {inner outer : List Text.Line}
    {stop : Text.Line}
    (shape : Text.lines payload = inner ++ stop :: outer)
    (foreign : ∀ line ∈ inner, Marker.Foreign tag line)
    (closes : Marker.closes tag stop = true)
    (returns : Bool) :
    ∃ block,
      Block.find? tag (placed returns lines index tag payload style) = some block ∧
        block.excise (placed returns lines index tag payload style) =
          lines.take index ++
            (outer.map (· ++ Text.ending returns) ++
              (Marker.renderEnd tag.name style ++
                Text.ending (returns && !decide (lines.length ≤ index))) :: lines.drop index) := by
  have isRegion :
      Block.IsRegion tag
        ((Marker.renderBegin tag.name payload style ++ Text.ending returns) ::
          (inner.map (· ++ Text.ending returns) ++ [stop ++ Text.ending returns])) := by
    refine ⟨_, _, _, rfl, ?_, ?_, ?_⟩
    · rw [Marker.isBegin_append_ending]
      exact (Marker.isBegin_renderBegin_iff clean tagUnmarked payload tag).mpr rfl
    · intro line member
      obtain ⟨content, inInner, rfl⟩ := List.mem_map.mp member
      exact (foreign content inInner).append_ending returns
    · rw [Marker.closes, Marker.isEnd_append_ending, Marker.isBegin_append_ending]
      exact closes
  have stands : Block.Stands tag (lines.take index) _ :=
    ⟨unpaired, isRegion⟩
  have placedShape :
      placed returns lines index tag payload style =
        lines.take index ++
          (((Marker.renderBegin tag.name payload style ++ Text.ending returns) ::
            (inner.map (· ++ Text.ending returns) ++ [stop ++ Text.ending returns])) ++
            (outer.map (· ++ Text.ending returns) ++
              (Marker.renderEnd tag.name style ++
                Text.ending (returns && !decide (lines.length ≤ index))) ::
                  lines.drop index)) := by
    rw [placed, written_eq, shape]
    simp
  rw [placedShape]
  exact ⟨_, stands.find?_eq _, Block.excise_ofRegion isRegion _⟩

end BlockSync.Merge
