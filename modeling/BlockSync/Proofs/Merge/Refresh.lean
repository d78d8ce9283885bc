import BlockSync.Proofs.Merge.LineEnds

namespace BlockSync.Merge.Insertion

/-!
# Refreshing a block

A block of another payload is put in the place of the one that was there, between the same lines.
The line ends that it is written with are those of the text with the older block in it, so they
show whether that block brought carriage returns in front of line feeds.
-/

variable {insertion : Insertion} {text payload : String} {line : Nat}

/-- The same insertion with another payload. -/
def withPayload (insertion : Insertion) (payload : String) : Insertion :=
  { insertion with payload := payload }

/-- An insertion into a text that has no block of it yet, to be followed by one of a new payload. -/
structure Refreshable
    (insertion : Insertion)
    (text : String)
    (line : Nat)
    (payload : String) :
    Prop where
  fits :
    insertion.Fits text line
  tagUnmarked :
    Marker.Unmarked insertion.tag.chars
  tagTokenless :
    ¬ Fingerprint.HoldsToken insertion.tag.chars
  openerTokenless :
    ¬ Fingerprint.HoldsToken insertion.style.opener.toList
  clean :
    insertion.style.Clean
  styleReturnless :
    insertion.style.Lacks '\r'
  payloadForeign :
    ∀ content ∈ Text.lines insertion.payload, Marker.Foreign insertion.tag content
  differs :
    Fingerprint.ofPayload insertion.payload ≠ Fingerprint.ofPayload payload

/-- Another payload does not change where an insertion goes. -/
theorem Fits.withPayload
    (fits : insertion.Fits text line)
    (payload : String) :
    (insertion.withPayload payload).Fits text line where
  absent :=
    fits.absent
  hits :=
    fits.hits

/-- A new payload is written between the lines of the text, with the line ends that it now has. -/
theorem Refreshable.run_withPayload
    (refreshable : insertion.Refreshable text line payload) :
    let lines := Text.lines text
    let place := insertion.anchor.indexBeside line
    let withBlock := insertion.placedIn (usesReturns lines) lines place
    (insertion.withPayload payload).run (Text.ofLines withBlock) =
      .ok ⟨Text.ofLines
        ((insertion.withPayload payload).placedIn (usesReturns withBlock) lines place),
        true, true⟩ := by
  intro lines place withBlock
  have fedless : ∀ content ∈ lines, '\n' ∉ content :=
    fun _ => Text.notMem_of_mem_lines
  have within : place ≤ lines.length := refreshable.fits.index_le
  have readBack : Text.lines (Text.ofLines withBlock) = withBlock :=
    lines_ofLines_placed refreshable.clean.lacksFeed fedless _ place _ _
  obtain ⟨found, _, around⟩ :=
    read_placed refreshable.openerTokenless refreshable.tagTokenless refreshable.clean
      refreshable.tagUnmarked refreshable.payloadForeign
      (refreshable.fits.unpaired_take place) within fedless
      (usesReturns lines)
  have stale : (placedBlock place insertion.payload).isCurrent payload = false := by
    simpa [placedBlock, Block.isCurrent] using refreshable.differs
  have merged : (insertion.withPayload payload).run (Text.ofLines withBlock) = _ :=
    addOrUpdate_name_eq_ok_iff.mpr (.replaced _ found stale)
  have excised : (placedBlock place insertion.payload).excise withBlock = lines := by
    rw [← readBack]
    exact around
  rw [readBack, excised] at merged
  exact merged

/--
A new payload is written as it would have been without the older one if the text had carriage
returns in front of line feeds, or the older block brought none.
-/
theorem Refreshable.refreshed_eq_iff
    (refreshable : insertion.Refreshable text line payload) :
    let lines := Text.lines text
    let place := insertion.anchor.indexBeside line
    let withBlock := insertion.placedIn (usesReturns lines) lines place
    Text.ofLines
          ((insertion.withPayload payload).placedIn (usesReturns withBlock) lines place) =
        Text.ofLines
          ((insertion.withPayload payload).placedIn (usesReturns lines) lines place) ↔
      ['\r', '\n'] <:+: text.toList ∨ ¬ insertion.BringsReturns text line := by
  intro lines place withBlock
  have fedless : ∀ content ∈ lines, '\n' ∉ content :=
    fun _ => Text.notMem_of_mem_lines
  have lacksFeed : (insertion.withPayload payload).style.Lacks '\n' :=
    refreshable.clean.lacksFeed
  rw [ofLines_placedIn_iff lacksFeed fedless,
    refreshable.fits.usesReturns_placedIn_eq refreshable.styleReturnless,
    ← Text.usesReturns_iff]
  cases usesReturns (Text.lines text) <;> simp

/--
Putting a new payload in the place of an older one leaves what a fresh insertion of the new one
would have written, unless the text had no carriage returns in front of line feeds and the older
block brought some.
-/
theorem refreshed_eq_fresh_iff
    (refreshable : insertion.Refreshable text line payload) :
    ∃ earlier updated fresh,
      insertion.run text = .ok ⟨earlier, true, false⟩ ∧
        (insertion.withPayload payload).run earlier = .ok ⟨updated, true, true⟩ ∧
        (insertion.withPayload payload).run text = .ok ⟨fresh, true, false⟩ ∧
        (updated = fresh ↔
          ['\r', '\n'] <:+: text.toList ∨ ¬ insertion.BringsReturns text line) :=
  ⟨_, _, _, refreshable.fits.run_eq, refreshable.run_withPayload,
    (refreshable.fits.withPayload payload).run_eq, refreshable.refreshed_eq_iff⟩

/-- An insertion below the line with a `z`. -/
def belowZ (payload : String) : Insertion :=
  ⟨firstTag, .literal "z" .after "", payload, .default⟩

/-- Such an insertion can be followed by one of a payload with another fingerprint. -/
theorem refreshable_belowZ
    {text payload later : String}
    {line : Nat}
    (fits : (belowZ payload).Fits text line)
    (unmarked : '@' ∉ payload.toList)
    (differs : Fingerprint.ofPayload payload ≠ Fingerprint.ofPayload later) :
    (belowZ payload).Refreshable text line later where
  fits :=
    fits
  tagUnmarked :=
    Marker.unmarked_of_notMem (by decide : '@' ∉ "a".toList)
  tagTokenless :=
    Fingerprint.not_holdsToken_of_length_lt (by decide : "a".toList.length < 45)
  openerTokenless :=
    Fingerprint.not_holdsToken_of_length_lt (by decide : "#".toList.length < 45)
  clean :=
    CommentStyle.clean_default
  styleReturnless :=
    (by decide : CommentStyle.default.Lacks '\r')
  payloadForeign _ member :=
    Marker.foreign_of_unmarked ((Marker.unmarked_of_notMem unmarked).of_mem_lines member) _
  differs :=
    differs

/-- Three payloads, one with a carriage return: the fingerprint of the last one is its own. -/
theorem ofPayload_ne_ofPayload_q :
    Fingerprint.ofPayload "p\r" ≠ Fingerprint.ofPayload "q" ∧
      Fingerprint.ofPayload "p" ≠ Fingerprint.ofPayload "q" := by
  decide +kernel

/-- An older block that ends its lines as the text does, behind a last line that does not. -/
theorem refreshed_eq_fresh_returned :
    ∃ earlier fresh,
      (belowZ "p\r").run "x\r\nz\r" = .ok ⟨earlier, true, false⟩ ∧
        (belowZ "q").run earlier = .ok ⟨fresh, true, true⟩ ∧
        (belowZ "q").run "x\r\nz\r" = .ok ⟨fresh, true, false⟩ := by
  have refreshable : (belowZ "p\r").Refreshable "x\r\nz\r" 1 "q" :=
    refreshable_belowZ ⟨by decide, by decide⟩ (by decide) ofPayload_ne_ofPayload_q.1
  obtain ⟨earlier, updated, fresh, earlierRun, updatedRun, freshRun, same⟩ :=
    refreshed_eq_fresh_iff refreshable
  have inText : ['\r', '\n'] <:+: "x\r\nz\r".toList := by
    decide
  rw [same.mpr (.inl inText)] at updatedRun
  exact ⟨earlier, fresh, earlierRun, updatedRun, freshRun⟩

/--
Two older blocks that bring carriage returns: one in its payload, and one behind a last line that
ends in one.
-/
theorem refreshed_ne_fresh :
    ((belowZ "p\r").Refreshable "z" 0 "q" ∧
      ∃ earlier updated fresh,
        (belowZ "p\r").run "z" = .ok ⟨earlier, true, false⟩ ∧
          (belowZ "q").run earlier = .ok ⟨updated, true, true⟩ ∧
          (belowZ "q").run "z" = .ok ⟨fresh, true, false⟩ ∧
          updated ≠ fresh) ∧
      (belowZ "p").Refreshable "z\r" 0 "q" ∧
        ∃ earlier updated fresh,
          (belowZ "p").run "z\r" = .ok ⟨earlier, true, false⟩ ∧
            (belowZ "q").run earlier = .ok ⟨updated, true, true⟩ ∧
            (belowZ "q").run "z\r" = .ok ⟨fresh, true, false⟩ ∧
            updated ≠ fresh := by
  have returned : (belowZ "p\r").Refreshable "z" 0 "q" :=
    refreshable_belowZ ⟨by decide, by decide⟩ (by decide) ofPayload_ne_ofPayload_q.1
  have atReturn : (belowZ "p").Refreshable "z\r" 0 "q" :=
    refreshable_belowZ ⟨by decide, by decide⟩ (by decide) ofPayload_ne_ofPayload_q.2
  have broughtByPayload :
      ¬ (['\r', '\n'] <:+: "z".toList ∨ ¬ (belowZ "p\r").BringsReturns "z" 0) := by
    decide
  have broughtByText :
      ¬ (['\r', '\n'] <:+: "z\r".toList ∨ ¬ (belowZ "p").BringsReturns "z\r" 0) := by
    decide
  exact
    ⟨⟨returned, _, _, _, returned.fits.run_eq, returned.run_withPayload,
        (returned.fits.withPayload "q").run_eq,
        fun same => broughtByPayload (returned.refreshed_eq_iff.mp same)⟩,
      atReturn, _, _, _, atReturn.fits.run_eq, atReturn.run_withPayload,
      (atReturn.fits.withPayload "q").run_eq,
      fun same => broughtByText (atReturn.refreshed_eq_iff.mp same)⟩

end BlockSync.Merge.Insertion
