import BlockSync.Proofs.Fragment.Rendering
import BlockSync.Proofs.Merge.Outcome

namespace BlockSync

/-!
# How a fragment fails

A fragment with a valid tag and a template without faults fails in few ways.  The report on a file
takes up that its anchor matches no line or several, and that a placeholder has no value.  That its
payload cannot be encoded escapes the report.
-/

/-- A failure that ends the work on a file and is taken up in its report. -/
inductive FragmentError.IsReported : FragmentError → Prop where
  | missingValues (fragment : String) (names : List String) :
      IsReported (.missingValues fragment names)
  | notFound (description contents : String) :
      IsReported (.merge (.anchor (.notFound description contents)))
  | ambiguous (description contents : String) (lines : List Nat) :
      IsReported (.merge (.anchor (.ambiguous description contents lines)))

/-- Every failure of an anchor is reported. -/
theorem FragmentError.isReported_anchor :
    (error : AnchorError) → IsReported (.merge (.anchor error))
  | .notFound description contents => .notFound description contents
  | .ambiguous description contents lines => .ambiguous description contents lines

/-- What is reported does not escape. -/
theorem FragmentError.IsReported.isExpected
    {error : FragmentError}
    (isReported : error.IsReported) :
    error.isExpected = true := by
  cases isReported <;> rfl

/-- A failure of what values are given: one of them has no text, or brings a surrogate along. -/
inductive FragmentError.IsOfValues : FragmentError → Prop where
  | tooManyDigits :
      IsOfValues .tooManyDigits
  | unencodable (cause : EncodeError) :
      IsOfValues (.merge (.unencodable cause))

namespace Fragment

variable {fragment : Fragment} {template : Template} {values : PayloadValues} {text : String}

/-- A fragment with a valid tag whose payload is a template without faults. -/
structure Sturdy (fragment : Fragment) (template : Template) : Prop where
  isTagName :
    IsTagName fragment.tag
  isPayload :
    fragment.payload = some template
  valid :
    template.isValid = true

/-- A fragment that can be rendered and has a valid tag is sturdy. -/
theorem Renderable.exists_sturdy
    (renderable : fragment.Renderable)
    (isTagName : IsTagName fragment.tag) :
    ∃ template, fragment.Sturdy template := by
  obtain ⟨template, isPayload, covered⟩ := renderable
  exact ⟨template, isTagName, isPayload, isValid_of_covers covered⟩

/-- A fragment with a required name missing is taken out. -/
theorem sync_of_missing
    (missing : fragment.missingValues (values.over fragment.defaults) ≠ [])
    (text : String) :
    fragment.sync text values = fragment.remove text := by
  rw [sync, if_neg (by simpa using missing)]

/-- Taking out a fragment with a valid tag succeeds. -/
theorem Sturdy.exists_remove
    (sturdy : fragment.Sturdy template)
    (text : String) :
    ∃ result, fragment.remove text = .ok result :=
  ⟨_, Except.mapError_eq_ok_iff.mpr (Merge.remove_name_eq text ⟨fragment.tag, sturdy.isTagName⟩)⟩

/-- A complete fragment merges a payload if all names of its template have values. -/
theorem Sturdy.sync_cases
    (sturdy : fragment.Sturdy template)
    (complete : fragment.missingValues (values.over fragment.defaults) = [])
    (text : String) :
    ((∀ name ∈ template.names, ((values.over fragment.defaults).lookup name).isSome) ∧
        ∃ payload,
          fragment.renderPayload values = .ok payload ∧
            fragment.sync text values =
              (Merge.addOrUpdate text fragment.tag fragment.anchor payload
                fragment.style).mapError .merge) ∨
      ∃ name ∈ template.names,
        (values.over fragment.defaults).lookup name = none ∧
          fragment.renderPayload values = .error (.missingValues fragment.name [name]) ∧
          fragment.sync text values = .error (.missingValues fragment.name [name]) := by
  rw [sync, complete, if_pos List.isEmpty_nil, apply, renderPayload, complete, buildPayload,
    sturdy.isPayload]
  rcases Template.render_cases sturdy.valid (values.over fragment.defaults) with
    ⟨given, payload, rendered⟩ | ⟨name, member, absent, failed⟩
  · refine .inl ⟨given, payload, ?_, ?_⟩
    all_goals
      simp only [rendered]
      rfl
  · refine .inr ⟨name, member, absent, ?_, ?_⟩
    all_goals
      simp only [failed]
      rfl

/-- A complete fragment renders as its template does. -/
theorem Sturdy.renderPayload_eq_ok_iff
    (sturdy : fragment.Sturdy template)
    (complete : fragment.missingValues (values.over fragment.defaults) = [])
    {payload : RawText} :
    fragment.renderPayload values = .ok payload ↔
      template.render (values.over fragment.defaults) = .ok payload := by
  rw [renderPayload, complete, buildPayload, sturdy.isPayload]
  exact Except.mapError_eq_ok_iff

/-- A merge with a valid tag fails with its anchor only, unless its payload cannot be encoded. -/
theorem Sturdy.merge_cases
    (sturdy : fragment.Sturdy template)
    {payload : RawText}
    {error : FragmentError}
    (failed :
      (Merge.addOrUpdate text fragment.tag fragment.anchor payload
        fragment.style).mapError .merge = .error error) :
    (∃ cause, payload.toText = .error cause ∧ error = .merge (.unencodable cause)) ∨
      ∃ isText cause, payload.toText = .ok isText ∧ error = .merge (.anchor cause) := by
  obtain ⟨merge, refused, rfl⟩ := Except.mapError_eq_error_iff.mp failed
  cases isText : payload.toText with
  | error cause =>
      have unencoded :=
        Merge.addOrUpdate_of_toText_eq_error isText text ⟨fragment.tag, sturdy.isTagName⟩
          fragment.anchor fragment.style
      dsimp only at unencoded
      rw [unencoded, Except.error.injEq] at refused
      subst refused
      exact .inl ⟨cause, rfl, rfl⟩
  | ok chars =>
      rw [RawText.toText_eq_ok_iff] at isText
      subst isText
      have merged :=
        Merge.addOrUpdate_name_eq text ⟨fragment.tag, sturdy.isTagName⟩ fragment.anchor chars
          fragment.style
      dsimp only at merged
      rw [merged, Except.mapError_eq_error_iff] at refused
      obtain ⟨cause, _, rfl⟩ := refused
      exact .inr ⟨chars, cause, rfl, rfl⟩

/-- What goes wrong with a sturdy fragment is reported, unless its payload cannot be encoded. -/
theorem Sturdy.isReported_or_unencodable_of_sync
    (sturdy : fragment.Sturdy template)
    {error : FragmentError}
    (failed : fragment.sync text values = .error error) :
    error.IsReported ∨ ∃ cause, error = .merge (.unencodable cause) := by
  by_cases complete : fragment.missingValues (values.over fragment.defaults) = []
  · rcases sturdy.sync_cases complete text with
      ⟨_, payload, _, merges⟩ | ⟨name, _, _, _, misses⟩
    · rw [merges] at failed
      rcases sturdy.merge_cases failed with ⟨cause, _, rfl⟩ | ⟨_, cause, _, rfl⟩
      · exact .inr ⟨cause, rfl⟩
      · exact .inl (FragmentError.isReported_anchor cause)
    · rw [misses] at failed
      cases failed
      exact .inl (.missingValues _ _)
  · obtain ⟨result, removed⟩ := sturdy.exists_remove text
    rw [sync_of_missing complete, removed] at failed
    cases failed

/-- A sturdy fragment cannot be encoded exactly if it is complete and its payload cannot be. -/
theorem Sturdy.sync_eq_unencodable_iff
    (sturdy : fragment.Sturdy template)
    {cause : EncodeError} :
    fragment.sync text values = .error (.merge (.unencodable cause)) ↔
      fragment.missingValues (values.over fragment.defaults) = [] ∧
        ∃ payload, fragment.renderPayload values = .ok payload ∧ payload.toText = .error cause := by
  constructor
  · intro failed
    by_cases complete : fragment.missingValues (values.over fragment.defaults) = []
    · rcases sturdy.sync_cases complete text with
        ⟨_, payload, rendered, merges⟩ | ⟨name, _, _, _, misses⟩
      · rw [merges] at failed
        rcases sturdy.merge_cases failed with ⟨same, unencoded, isCause⟩ | ⟨_, _, _, isCause⟩
        · cases isCause
          exact ⟨complete, payload, rendered, unencoded⟩
        · cases isCause
      · rw [misses] at failed
        cases failed
    · obtain ⟨result, removed⟩ := sturdy.exists_remove text
      rw [sync_of_missing complete, removed] at failed
      cases failed
  · rintro ⟨complete, payload, rendered, unencoded⟩
    have failed :=
      Merge.addOrUpdate_of_toText_eq_error unencoded text ⟨fragment.tag, sturdy.isTagName⟩
        fragment.anchor fragment.style
    dsimp only at failed
    rw [sync, complete, if_pos List.isEmpty_nil, apply, rendered]
    exact Except.mapError_eq_error_iff.mpr ⟨_, failed, rfl⟩

/-- A sturdy fragment misses a value exactly if it is complete and a placeholder has no value. -/
theorem Sturdy.sync_eq_missingValues_iff
    (sturdy : fragment.Sturdy template) :
    (∃ owner names, fragment.sync text values = .error (.missingValues owner names)) ↔
      fragment.missingValues (values.over fragment.defaults) = [] ∧
        ∃ name ∈ template.names, (values.over fragment.defaults).lookup name = none := by
  constructor
  · rintro ⟨owner, names, failed⟩
    by_cases complete : fragment.missingValues (values.over fragment.defaults) = []
    · rcases sturdy.sync_cases complete text with
        ⟨_, payload, _, merges⟩ | ⟨name, member, absent, _⟩
      · rw [merges] at failed
        rcases sturdy.merge_cases failed with ⟨_, _, isCause⟩ | ⟨_, _, _, isCause⟩
        all_goals cases isCause
      · exact ⟨complete, name, member, absent⟩
    · obtain ⟨result, removed⟩ := sturdy.exists_remove text
      rw [sync_of_missing complete, removed] at failed
      cases failed
  · rintro ⟨complete, name, member, absent⟩
    rcases sturdy.sync_cases complete text with ⟨given, _⟩ | ⟨other, _, _, _, misses⟩
    · have present := given name member
      rw [absent] at present
      cases present
    · exact ⟨fragment.name, [other], misses⟩

end Fragment

end BlockSync
