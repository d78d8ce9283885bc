import BlockSync.Fragment.Catalogue
import BlockSync.Proofs.Block.Rendered
import BlockSync.Proofs.Except
import BlockSync.Proofs.Fragment.Values

namespace BlockSync

/-!
# Rendering from values

A template without faults renders once each of its placeholders has a value.  So a fragment whose
placeholders are all required or have a default renders as soon as no required value is missing.
-/

namespace Template

variable {template : Template}

/-- A template is valid exactly if none of its pieces is a fault. -/
theorem isValid_iff : template.isValid = true ↔ ∀ offset, .fault offset ∉ template.pieces := by
  rw [isValid, List.all_eq_true]
  constructor
  · intro valid offset member
    cases valid _ member
  · intro faultless piece member
    cases piece with
    | char c =>
        rfl
    | placeholder name =>
        rfl
    | fault offset =>
        exact (faultless offset member).elim

/-- The names of a template are those of its placeholders. -/
theorem mem_names_iff {name : String} :
    name ∈ template.names ↔ .placeholder name ∈ template.pieces := by
  rw [names, List.mem_eraseDups, List.mem_filterMap]
  constructor
  · rintro ⟨piece, member, isName⟩
    cases piece with
    | placeholder other =>
        cases isName
        exact member
    | char c =>
        cases isName
    | fault offset =>
        cases isName
  · exact fun member => ⟨_, member, rfl⟩

/--
Pieces without a fault render if each of their placeholders has a value, and else fail with one that
has none.
-/
theorem renderPieces_cases
    (values : PayloadValues)
    {pieces : List TemplatePiece}
    (faultless : ∀ offset, .fault offset ∉ pieces) :
    ((∀ name, .placeholder name ∈ pieces → (values.lookup name).isSome) ∧
        ∃ text, template.renderPieces values pieces = .ok text) ∨
      ∃ name, .placeholder name ∈ pieces ∧ values.lookup name = none ∧
        template.renderPieces values pieces = .error (.missing name) := by
  induction pieces with
  | nil =>
      exact .inl ⟨by simp, [], rfl⟩
  | cons piece rest inductionHypothesis =>
      have later :=
        inductionHypothesis fun offset member =>
          faultless offset (List.mem_cons_of_mem piece member)
      cases piece with
      | char c =>
          rcases later with ⟨given, text, rendered⟩ | ⟨name, member, absent, failed⟩
          · exact .inl ⟨by simpa using given, .char c :: text, by rw [renderPieces, rendered]; rfl⟩
          · exact
              .inr ⟨name, List.mem_cons_of_mem _ member, absent,
                by rw [renderPieces, failed]; rfl⟩
      | placeholder first =>
          cases found : values.lookup first with
          | none =>
              exact .inr ⟨first, List.mem_cons_self, found, by rw [renderPieces, found]⟩
          | some value =>
              rcases later with ⟨given, text, rendered⟩ | ⟨name, member, absent, failed⟩
              · refine
                  .inl ⟨?_, value ++ text,
                    by simp [renderPieces, found, rendered, Except.map]⟩
                intro name member
                rcases List.mem_cons.mp member with isFirst | isLater
                · cases isFirst
                  rw [found]
                  rfl
                · exact given name isLater
              · exact
                  .inr ⟨name, List.mem_cons_of_mem _ member, absent,
                    by simp [renderPieces, found, failed, Except.map]⟩
      | fault offset =>
          exact (faultless offset List.mem_cons_self).elim

/-- A valid template renders if all its names have values, and else fails with one that has none. -/
theorem render_cases
    (valid : template.isValid = true)
    (values : PayloadValues) :
    ((∀ name ∈ template.names, (values.lookup name).isSome) ∧
        ∃ text, template.render values = .ok text) ∨
      ∃ name ∈ template.names,
        values.lookup name = none ∧ template.render values = .error (.missing name) := by
  simp only [mem_names_iff]
  rcases template.renderPieces_cases values (isValid_iff.mp valid) with
    ⟨given, text, rendered⟩ | ⟨name, member, absent, failed⟩
  · exact .inl ⟨given, text, rendered⟩
  · exact .inr ⟨name, member, absent, failed⟩

/-- A template renders alike from values that are found alike. -/
theorem render_congr
    {values others : PayloadValues}
    (same : ∀ name, values.lookup name = others.lookup name)
    (template : Template) :
    template.render values = template.render others := by
  rw [render, render]
  induction template.pieces with
  | nil =>
      rfl
  | cons piece rest inductionHypothesis =>
      cases piece with
      | char c =>
          rw [renderPieces, renderPieces, inductionHypothesis]
      | placeholder name =>
          rw [renderPieces, renderPieces, same, inductionHypothesis]
      | fault offset =>
          rfl

end Template

namespace Fragment

/-- Whether a piece of a template renders for a fragment whenever no required value is missing. -/
def Covers (fragment : Fragment) : TemplatePiece → Prop
  | .char _ => True
  | .placeholder name => name ∈ fragment.required ∨ (fragment.defaults.lookup name).isSome
  | .fault _ => False

/-- Whether a fragment covers a piece can be computed. -/
instance (fragment : Fragment) : DecidablePred fragment.Covers
  | .char _ => isTrue trivial
  | .placeholder _ => inferInstanceAs (Decidable (_ ∨ _))
  | .fault _ => isFalse id

/-- A fragment with a template that renders whenever no required value is missing. -/
def Renderable (fragment : Fragment) : Prop :=
  ∃ template ∈ fragment.payload, ∀ piece ∈ template.pieces, fragment.Covers piece

/-- Whether a fragment can be rendered can be computed. -/
instance (fragment : Fragment) : Decidable fragment.Renderable :=
  inferInstanceAs (Decidable (∃ template ∈ fragment.payload, ∀ piece ∈ template.pieces, _))

variable {fragment : Fragment} {values : PayloadValues}

/-- A template whose pieces are covered is valid. -/
theorem isValid_of_covers
    {template : Template}
    (covered : ∀ piece ∈ template.pieces, fragment.Covers piece) :
    template.isValid = true :=
  Template.isValid_iff.mpr fun _ member => covered _ member

/-- No required name is missing exactly if each has a value that is not empty. -/
theorem missingValues_eq_nil_iff :
    fragment.missingValues values = [] ↔
      ∀ name ∈ fragment.required, ∃ value ≠ [], values.lookup name = some value := by
  rw [missingValues, List.filter_eq_nil_iff]
  refine forall₂_congr fun name _ => ?_
  cases values.lookup name with
  | none =>
      simp
  | some value =>
      simp

/-- A required name has a value if none is missing. -/
theorem isSome_lookup_of_required
    {name : String}
    (complete : fragment.missingValues values = [])
    (required : name ∈ fragment.required) :
    (values.lookup name).isSome := by
  obtain ⟨value, _, found⟩ := missingValues_eq_nil_iff.mp complete name required
  exact Option.isSome_of_eq_some found

/-- A fragment renders from values among which no required one is missing. -/
theorem Renderable.exists_payload
    (renderable : fragment.Renderable)
    (complete : fragment.missingValues (values.over fragment.defaults) = []) :
    ∃ payload, fragment.renderPayload values = .ok payload := by
  obtain ⟨template, isPayload, covered⟩ := renderable
  have valid := isValid_of_covers covered
  have given :
      ∀ name ∈ template.names, ((values.over fragment.defaults).lookup name).isSome := by
    intro name member
    rcases covered _ (Template.mem_names_iff.mp member) with required | hasDefault
    · exact isSome_lookup_of_required complete required
    · exact PayloadValues.isSome_lookup_over values hasDefault
  rcases Template.render_cases valid (values.over fragment.defaults) with
    ⟨_, text, rendered⟩ | ⟨name, member, absent, _⟩
  · refine ⟨text, ?_⟩
    rw [renderPayload, complete, buildPayload, isPayload]
    simp only [rendered]
    rfl
  · have present := given name member
    rw [absent] at present
    cases present

/-- A fragment without placeholders can be rendered. -/
theorem renderable_of_ofText
    {text : String}
    (isText : fragment.payload = some (.ofText text)) :
    fragment.Renderable := by
  refine ⟨.ofText text, isText, fun piece member => ?_⟩
  obtain ⟨c, _, rfl⟩ := List.mem_map.mp member
  exact trivial

/-- A fragment whose block is found as it was written. -/
structure Sound (fragment : Fragment) : Prop where
  isTagName :
    IsTagName fragment.tag
  tagUnmarked :
    '@' ∉ fragment.tag.toList
  tagShort :
    fragment.tag.toList.length < 45
  openerShort :
    fragment.style.opener.toList.length < 45
  styleUnmarked :
    fragment.style.Lacks '@'
  styleFedless :
    fragment.style.Lacks '\n'

/-- Whether a fragment is sound can be computed. -/
instance (fragment : Fragment) : Decidable fragment.Sound :=
  decidable_of_iff
    (IsTagName fragment.tag ∧ '@' ∉ fragment.tag.toList ∧ fragment.tag.toList.length < 45 ∧
      fragment.style.opener.toList.length < 45 ∧ fragment.style.Lacks '@' ∧
      fragment.style.Lacks '\n')
    ⟨fun ⟨isTagName, tagUnmarked, tagShort, openerShort, styleUnmarked, styleFedless⟩ =>
      ⟨isTagName, tagUnmarked, tagShort, openerShort, styleUnmarked, styleFedless⟩,
      fun sound =>
        ⟨sound.isTagName, sound.tagUnmarked, sound.tagShort, sound.openerShort,
          sound.styleUnmarked, sound.styleFedless⟩⟩

/-- The comment style of a sound fragment is clean. -/
theorem Sound.clean (sound : fragment.Sound) : fragment.style.Clean where
  openerUnmarked :=
    Marker.unmarked_of_notMem sound.styleUnmarked.1
  closerUnmarked :=
    Marker.unmarked_of_notMem sound.styleUnmarked.2
  openerFedless :=
    sound.styleFedless.1
  closerFedless :=
    sound.styleFedless.2

/-- The tag of a sound fragment. -/
def Sound.ownTag (sound : fragment.Sound) : Tag :=
  ⟨fragment.tag, sound.isTagName⟩

/-- The tag of a sound fragment lacks the keyword of markers. -/
theorem Sound.unmarked_ownTag (sound : fragment.Sound) : Marker.Unmarked sound.ownTag.chars :=
  Marker.unmarked_of_notMem sound.tagUnmarked

/-- The tag of a sound fragment holds no token. -/
theorem Sound.tokenless_ownTag (sound : fragment.Sound) :
    ¬ Fingerprint.HoldsToken sound.ownTag.chars :=
  Fingerprint.not_holdsToken_of_length_lt sound.tagShort

end Fragment

namespace Catalogue

/-- All shipped fragments are sound. -/
theorem sound_of_mem : ∀ fragment ∈ fragments, fragment.Sound := by
  decide +kernel

/-- All shipped fragments can be rendered. -/
theorem renderable_of_mem : ∀ fragment ∈ fragments, fragment.Renderable := by
  have gradleRenderable : gradle.Renderable := by
    decide +kernel
  have manifestKeyRenderable : manifestKey.Renderable := by
    decide +kernel
  have cocoaPodsRenderable : cocoaPods.Renderable :=
    Fragment.renderable_of_ofText rfl
  have swiftImportRenderable : swiftImport.Renderable :=
    Fragment.renderable_of_ofText rfl
  have swiftInitRenderable : swiftInit.Renderable := by
    decide +kernel
  have objcImportRenderable : objcImport.Renderable :=
    Fragment.renderable_of_ofText rfl
  have objcInitRenderable : objcInit.Renderable := by
    decide +kernel
  simp only [fragments, List.forall_mem_cons]
  exact
    ⟨gradleRenderable, manifestKeyRenderable, cocoaPodsRenderable, swiftImportRenderable,
      swiftInitRenderable, objcImportRenderable, objcInitRenderable, List.forall_mem_nil _⟩

end Catalogue

end BlockSync
