import BlockSync.Proofs.Fragment.Rendering
import BlockSync.Proofs.Merge.Breakout
import BlockSync.Proofs.Merge.Insertion

namespace BlockSync

/-!
# Values inside of their block

Values are put into a payload as they are, so a value with several lines can bring markers into it.
The block of a shipped fragment holds just the lines of its payload exactly if none of them is a
marker of the fragment's own tag.  Then the block is current, and taking it out restores the text.
-/

namespace Block

/-- Lines are foreign to the name of a tag exactly if they are foreign to the tag. -/
theorem foreignTo_name_iff
    (tag : Tag)
    {lines : List Text.Line} :
    ForeignTo tag.name lines ↔ ∀ line ∈ lines, Marker.Foreign tag line := by
  constructor
  · exact fun foreign => foreign tag rfl
  · intro foreign other sameName
    rw [Tag.eq_of_name_eq sameName]
    exact foreign

end Block

namespace Fragment

variable {fragment : Fragment} {values : PayloadValues} {text payload : String} {line : Nat}

/-- The insertion that a sound fragment makes with a payload. -/
def Sound.insertion (sound : fragment.Sound) (payload : String) : Merge.Insertion :=
  ⟨sound.ownTag, fragment.anchor, payload, fragment.style⟩

/-- Applying a fragment carries out the insertion of its payload. -/
theorem Sound.apply_eq_ok_iff
    (sound : fragment.Sound)
    (rendered : fragment.renderPayload values = .ok payload)
    {result : MergeResult} :
    fragment.apply text values = .ok result ↔
      (sound.insertion payload).run text = .ok result := by
  rw [Fragment.apply, rendered]
  exact Except.mapError_eq_ok_iff

/-- Removing a fragment takes its tag out. -/
theorem Sound.remove_eq
    (sound : fragment.Sound)
    (text : String) :
    fragment.remove text = .ok (Merge.removeTagged text sound.ownTag) := by
  rw [Fragment.remove, Except.mapError_eq_ok_iff]
  exact Merge.remove_name_eq text sound.ownTag

/-- The lines of a text with the block of a sound fragment in it. -/
def Sound.applied
    (sound : fragment.Sound)
    (payload text : String)
    (line : Nat) :
    List Text.Line :=
  (sound.insertion payload).placedIn (Merge.usesReturns (Text.lines text)) (Text.lines text)
    (fragment.anchor.indexBeside line)

/-- The lines of the new text are those that were put together. -/
theorem Sound.lines_ofLines_applied
    (sound : fragment.Sound)
    (payload text : String)
    (line : Nat) :
    Text.lines (Text.ofLines (sound.applied payload text line)) =
      sound.applied payload text line :=
  Merge.lines_ofLines_placed sound.clean.lacksFeed (fun _ => Text.notMem_of_mem_lines) _ _ _ _

/-- A sound fragment puts its block beside the only line that its anchor matches. -/
theorem Sound.run_eq
    (sound : fragment.Sound)
    (fits : (sound.insertion payload).Fits text line) :
    (sound.insertion payload).run text =
      .ok ⟨Text.ofLines (sound.applied payload text line), true, false⟩ :=
  fits.run_eq

/-- The block of a sound fragment is found as it was written exactly if its payload is foreign. -/
theorem Sound.find?_applied_iff
    (sound : fragment.Sound)
    (fits : (sound.insertion payload).Fits text line) :
    Block.find? sound.ownTag (sound.applied payload text line) =
        some (Merge.placedBlock (fragment.anchor.indexBeside line) payload) ↔
      ∀ content ∈ Text.lines payload, Marker.Foreign sound.ownTag content :=
  Merge.find?_placed_iff (Fingerprint.not_holdsToken_of_length_lt sound.openerShort)
    sound.tokenless_ownTag sound.clean sound.unmarked_ownTag (fits.unpaired_take _)
    fits.index_le payload _

/-- A block that is found as it was written is current, and is taken out without a trace. -/
theorem Sound.settled_of_find?
    (sound : fragment.Sound)
    (fits : (sound.insertion payload).Fits text line)
    (found :
      Block.find? sound.ownTag (sound.applied payload text line) =
        some (Merge.placedBlock (fragment.anchor.indexBeside line) payload)) :
    (sound.insertion payload).run (Text.ofLines (sound.applied payload text line)) =
        .ok (.unchanged (Text.ofLines (sound.applied payload text line))) ∧
      Merge.removeTagged (Text.ofLines (sound.applied payload text line)) sound.ownTag =
        ⟨text, false, true⟩ := by
  have readBack := sound.lines_ofLines_applied payload text line
  have around :
      (Merge.placedBlock (fragment.anchor.indexBeside line) payload).excise
          (sound.applied payload text line) =
        Text.lines text :=
    Merge.excise_placed fits.index_le _ _ _ _
  rw [← readBack] at found
  constructor
  · exact
      Merge.addOrUpdate_name_eq_ok_iff.mpr
        (.kept _ found (Merge.isCurrent_placedBlock _ payload))
  · rw [Merge.removeTagged_of_find? found, readBack, around, Text.ofLines_lines]

/-- What stands below an end marker in the payload of a sound fragment is not taken out. -/
theorem Sound.removeTagged_applied_of_closes
    (sound : fragment.Sound)
    (fits : (sound.insertion payload).Fits text line)
    {inner outer : List Text.Line}
    {stop : Text.Line}
    (shape : Text.lines payload = inner ++ stop :: outer)
    (foreign : ∀ content ∈ inner, Marker.Foreign sound.ownTag content)
    (closes : Marker.closes sound.ownTag stop = true) :
    let lines := Text.lines text
    let index := fragment.anchor.indexBeside line
    let returns := Merge.usesReturns lines
    Merge.removeTagged (Text.ofLines (sound.applied payload text line)) sound.ownTag =
      ⟨Text.ofLines
        (lines.take index ++
          (outer.map (· ++ Text.ending returns) ++
            (Marker.renderEnd fragment.tag fragment.style ++
              Text.ending (returns && !decide (lines.length ≤ index))) :: lines.drop index)),
        false, true⟩ := by
  intro lines index returns
  obtain ⟨block, found, left⟩ :
      ∃ block,
        Block.find? sound.ownTag (sound.applied payload text line) = some block ∧
          block.excise (sound.applied payload text line) = _ :=
    Merge.excise_placed_of_closes sound.clean sound.unmarked_ownTag (fits.unpaired_take index)
      shape foreign closes returns
  have readBack := sound.lines_ofLines_applied payload text line
  rw [← readBack] at found
  rw [Merge.removeTagged_of_find? found, readBack, left]
  rfl

/-- A payload that cannot be encoded is not written. -/
theorem Sound.apply_of_toText_eq_error
    (sound : fragment.Sound)
    {raw : RawText}
    {error : EncodeError}
    (rendered : fragment.renderPayload values = .ok raw)
    (unencoded : raw.toText = .error error)
    (text : String) :
    fragment.apply text values = .error (.merge (.unencodable error)) := by
  have refused :=
    Merge.addOrUpdate_of_toText_eq_error unencoded text sound.ownTag fragment.anchor fragment.style
  rw [Fragment.apply, rendered]
  exact Except.mapError_eq_error_iff.mpr ⟨_, refused, rfl⟩

/-- A payload of characters is written beside the anchor, and may or may not break out. -/
theorem Sound.contained_iff
    (sound : fragment.Sound)
    (rendered : fragment.renderPayload values = .ok payload)
    (absent : Block.named? fragment.tag (Text.lines text) = none)
    (hits : fragment.anchor.hits (Text.lines text) = [line]) :
    ∃ contents,
      fragment.apply text values = .ok ⟨contents, true, false⟩ ∧
        (Block.named? fragment.tag (Text.lines contents) =
            some (Merge.placedBlock (fragment.anchor.indexBeside line) payload) ↔
          Block.ForeignTo fragment.tag (Text.lines payload)) ∧
        (Block.ForeignTo fragment.tag (Text.lines payload) →
          (Merge.placedBlock (fragment.anchor.indexBeside line) payload).interior
                (Text.lines contents) =
              (Text.lines payload).map
                (· ++ Text.ending (Merge.usesReturns (Text.lines text))) ∧
            fragment.apply contents values = .ok (.unchanged contents) ∧
            fragment.remove contents = .ok ⟨text, false, true⟩) := by
  have ownName : sound.ownTag.name = fragment.tag :=
    rfl
  have fits : (sound.insertion payload).Fits text line :=
    ⟨(Block.named?_eq ownName _).symm.trans absent, hits⟩
  have readBack := sound.lines_ofLines_applied payload text line
  have sameFound :
      Block.named? fragment.tag (Text.lines (Text.ofLines (sound.applied payload text line))) =
        Block.find? sound.ownTag (sound.applied payload text line) := by
    rw [Block.named?_eq ownName, readBack]
  have foreign_iff :
      Block.ForeignTo fragment.tag (Text.lines payload) ↔
        ∀ content ∈ Text.lines payload, Marker.Foreign sound.ownTag content :=
    Block.foreignTo_name_iff sound.ownTag
  refine ⟨_, (sound.apply_eq_ok_iff rendered).mpr (sound.run_eq fits), ?_, fun foreign => ?_⟩
  · rw [sameFound, foreign_iff]
    exact sound.find?_applied_iff fits
  · obtain ⟨again, removed⟩ :=
      sound.settled_of_find? fits
        ((sound.find?_applied_iff fits).mpr (foreign_iff.mp foreign))
    refine ⟨?_, (sound.apply_eq_ok_iff rendered).mpr again, ?_⟩
    · rw [readBack]
      exact Merge.interior_placed fits.index_le _ _ _ _
    · rw [sound.remove_eq, removed]

/--
Whatever values a shipped fragment is applied with, its payload renders.  It is refused if it cannot
be encoded.  Otherwise its block holds just the lines of the payload exactly if none of them is a
marker of its own tag.  If so, applying it again changes nothing and removing it restores the text.
-/
theorem values_contained_iff
    (shipped : fragment ∈ Catalogue.fragments)
    (complete : fragment.missingValues (values.over fragment.defaults) = [])
    (absent : Block.named? fragment.tag (Text.lines text) = none)
    (hits : fragment.anchor.hits (Text.lines text) = [line]) :
    ∃ raw : RawText,
      fragment.renderPayload values = .ok raw ∧
        (∀ error, raw.toText = .error error →
          fragment.apply text values = .error (.merge (.unencodable error))) ∧
        ∀ payload, raw.toText = .ok payload →
          ∃ contents,
            fragment.apply text values = .ok ⟨contents, true, false⟩ ∧
              (Block.named? fragment.tag (Text.lines contents) =
                  some (Merge.placedBlock (fragment.anchor.indexBeside line) payload) ↔
                Block.ForeignTo fragment.tag (Text.lines payload)) ∧
              (Block.ForeignTo fragment.tag (Text.lines payload) →
                (Merge.placedBlock (fragment.anchor.indexBeside line) payload).interior
                      (Text.lines contents) =
                    (Text.lines payload).map
                      (· ++ Text.ending (Merge.usesReturns (Text.lines text))) ∧
                  fragment.apply contents values = .ok (.unchanged contents) ∧
                  fragment.remove contents = .ok ⟨text, false, true⟩) := by
  have sound := Catalogue.sound_of_mem fragment shipped
  obtain ⟨raw, rendered⟩ :=
    (Catalogue.renderable_of_mem fragment shipped).exists_payload complete
  refine
    ⟨raw, rendered, fun _ unencoded => sound.apply_of_toText_eq_error rendered unencoded text,
      fun payload isText => ?_⟩
  rw [RawText.toText_eq_ok_iff] at isText
  subst isText
  exact sound.contained_iff rendered absent hits

/-- The version of the maps library, given as the only value. -/
def versionValues (version : RawText) : PayloadValues :=
  [("version", version)]

/-- The dependency of the build can be put into its section. -/
theorem fits_dependencies :
    Block.named? Catalogue.gradle.tag (Text.lines "dependencies \x7b") = none ∧
      Catalogue.gradle.anchor.hits (Text.lines "dependencies \x7b") = [0] := by
  decide +kernel

/-- A version of two lines that closes the quote it stands in and opens another one. -/
theorem values_contained_requoted :
    ∃ payload contents : String,
      Catalogue.gradle.renderPayload (versionValues "1'\n    api 'x") = .ok payload ∧
        Catalogue.gradle.apply "dependencies \x7b" (versionValues "1'\n    api 'x") =
          .ok ⟨contents, true, false⟩ ∧
        Block.named? Catalogue.gradle.tag (Text.lines contents) =
          some (Merge.placedBlock 1 payload) ∧
        Catalogue.gradle.apply contents (versionValues "1'\n    api 'x") =
          .ok (.unchanged contents) ∧
        Catalogue.gradle.remove contents = .ok ⟨"dependencies \x7b", false, true⟩ := by
  have shipped : Catalogue.gradle ∈ Catalogue.fragments := by
    simp [Catalogue.fragments]
  have complete :
      Catalogue.gradle.missingValues
          ((versionValues "1'\n    api 'x").over Catalogue.gradle.defaults) = [] :=
    rfl
  obtain ⟨raw, rendered, _, encoded⟩ :=
    values_contained_iff shipped complete fits_dependencies.1 fits_dependencies.2
  obtain ⟨payload, isPayload, isRaw⟩ :
      ∃ payload : String,
        payload = "    implementation 'com.google.android.gms:play-services-maps:" ++
          "1'\n    api 'x'" ∧
          Catalogue.gradle.renderPayload (versionValues "1'\n    api 'x") = .ok payload :=
    ⟨_, rfl, by decide +kernel⟩
  rw [isRaw, Except.ok.injEq] at rendered
  subst rendered
  obtain ⟨contents, applied, spans, contained⟩ := encoded payload (RawText.toText_ofString payload)
  have unmarked : '@' ∉ payload.toList := by
    rw [isPayload]
    decide +kernel
  have foreign : Block.ForeignTo Catalogue.gradle.tag (Text.lines payload) :=
    fun tag _ _ member =>
      Marker.foreign_of_unmarked ((Marker.unmarked_of_notMem unmarked).of_mem_lines member) tag
  obtain ⟨_, again, removed⟩ := contained foreign
  exact ⟨payload, contents, isRaw, applied, spans.mpr foreign, again, removed⟩

/-- A version with the end marker of the block of the dependency in it. -/
def escaping : PayloadValues :=
  versionValues "1\n// @generated end react-native-maps-gradle\n"

/-- The line of the dependency that such a version starts on. -/
def cutLine : Text.Line :=
  "    implementation 'com.google.android.gms:play-services-maps:1".toList

/-- The end marker of the block of the dependency. -/
def gradleEnd : Text.Line :=
  Marker.renderEnd Catalogue.gradle.tag Catalogue.gradle.style

/-- The dependency on such a version. -/
def brokenDependency : String :=
  "    implementation 'com.google.android.gms:play-services-maps:1\n" ++
    "// @generated end react-native-maps-gradle\n'"

/-- Such a version stands in the dependency as it is. -/
theorem renderPayload_escaping :
    Catalogue.gradle.renderPayload escaping = .ok brokenDependency := by
  decide +kernel

/-- The dependency is broken into three lines, one of them the end marker. -/
theorem lines_brokenDependency :
    Text.lines brokenDependency = [cutLine] ++ gradleEnd :: ["'".toList] := by
  have joined : brokenDependency = Text.ofLines [cutLine, gradleEnd, "'".toList] := by
    decide +kernel
  rw [joined]
  exact Text.lines_ofLines (List.cons_ne_nil _ _) (by decide +kernel)

/-- A version with the end marker of its own block in it: what is below it is not taken out. -/
theorem values_not_contained :
    Catalogue.gradle ∈ Catalogue.fragments ∧
      Catalogue.gradle.missingValues (escaping.over Catalogue.gradle.defaults) = [] ∧
      Block.named? Catalogue.gradle.tag (Text.lines "dependencies \x7b") = none ∧
      Catalogue.gradle.anchor.hits (Text.lines "dependencies \x7b") = [0] ∧
      ∃ payload contents : String,
        Catalogue.gradle.renderPayload escaping = .ok payload ∧
          Catalogue.gradle.apply "dependencies \x7b" escaping = .ok ⟨contents, true, false⟩ ∧
          Block.named? Catalogue.gradle.tag (Text.lines contents) ≠
            some (Merge.placedBlock 1 payload) ∧
          Catalogue.gradle.remove contents =
            .ok ⟨"dependencies \x7b\n'\n// @generated end react-native-maps-gradle",
              false, true⟩ := by
  have shipped : Catalogue.gradle ∈ Catalogue.fragments := by
    simp [Catalogue.fragments]
  have sound := Catalogue.sound_of_mem _ shipped
  have ownName : sound.ownTag.name = Catalogue.gradle.tag :=
    rfl
  have cutForeign : ∀ line ∈ [cutLine], Marker.Foreign sound.ownTag line := by
    rw [List.forall_mem_singleton]
    exact Marker.foreign_of_unmarked (Marker.unmarked_of_notMem (by decide +kernel)) _
  have ends : Marker.closes sound.ownTag gradleEnd = true := by
    rw [Marker.closes, gradleEnd, ← ownName,
      Marker.isBegin_renderEnd sound.clean sound.unmarked_ownTag,
      (Marker.isEnd_renderEnd_iff sound.clean sound.unmarked_ownTag _).mpr rfl]
    rfl
  have fits : (sound.insertion brokenDependency).Fits "dependencies \x7b" 0 :=
    ⟨(Block.named?_eq ownName _).symm.trans fits_dependencies.1, fits_dependencies.2⟩
  refine
    ⟨shipped, rfl, fits_dependencies.1, fits_dependencies.2, _, _, renderPayload_escaping,
      (sound.apply_eq_ok_iff renderPayload_escaping).mpr (sound.run_eq fits), ?_, ?_⟩
  · rw [Block.named?_eq ownName, sound.lines_ofLines_applied]
    intro found
    have foreign := (sound.find?_applied_iff fits).mp found
    rw [lines_brokenDependency] at foreign
    have notEnds := (foreign gradleEnd (by simp)).notCloses
    rw [ends] at notEnds
    cases notEnds
  · have usesNone : Merge.usesReturns (Text.lines "dependencies \x7b") = false := by
      decide
    rw [sound.remove_eq,
      sound.removeTagged_applied_of_closes fits lines_brokenDependency cutForeign ends, usesNone]
    decide +kernel

end Fragment

end BlockSync
