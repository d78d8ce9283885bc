import BlockSync.Proofs.Merge.Layered

namespace BlockSync.Merge

/-!
# Reversal of a run

Any number of merges and removals can be reversed by taking out every tag once, in any order.  The
text comes back character for character, since all that stands in it besides the lines of the host
text are the generated blocks.
-/

/-- A call on the text of a file. -/
inductive Call where
  | addOrUpdate (tag : Tag) (anchor : Anchor) (payload : String) (style : CommentStyle)
  | remove (tag : Tag)

namespace Call

/-- What a call gives back. -/
def run (text : String) : Call → Except MergeError MergeResult
  | addOrUpdate tag anchor payload style =>
      Merge.addOrUpdate text tag.name anchor payload style
  | remove tag =>
      Merge.remove text tag.name

/-- The text after a call; a call that fails leaves it as it was. -/
def after (text : String) (call : Call) : String :=
  match call.run text with
  | .ok result => result.contents
  | .error _ => text

/-- The text after some calls, one after another. -/
def afterAll (text : String) (calls : List Call) : String :=
  calls.foldl after text

/-- Whether a call is about one of some tags, and what it writes adds no markers of its own. -/
def Allowed (tags : List Tag) : Call → Prop
  | addOrUpdate tag _ payload style =>
      tag ∈ tags ∧ Marker.Unmarked payload.toList ∧ style.Clean
  | remove tag =>
      tag ∈ tags

end Call

/-- Takes out some tags, one after another. -/
def removeAll (text : String) (tags : List Tag) : Except MergeError String :=
  tags.foldlM (fun text tag => (remove text tag.name).map MergeResult.contents) text

/-- Tags that can be merged into a host text: none of them has a block in it. -/
structure Suits (host : String) (tags : List Tag) : Prop where
  unmarked :
    ∀ tag ∈ tags, Marker.Unmarked tag.chars
  absent :
    ∀ tag ∈ tags, Block.find? tag (Text.lines host) = none

variable {host text : String} {tags live : List Tag}

/-- The host text pairs no markers of a tag that suits it. -/
theorem Suits.unpaired
    (suits : Suits host tags)
    {tag : Tag}
    (member : tag ∈ tags) :
    Block.Unpaired tag (Text.lines host) :=
  Block.find?_eq_none_iff.mp (suits.absent tag member)

/-- A call leaves the host text with blocks of the tags in it. -/
theorem Layered.after
    {call : Call}
    (layered : Layered (Text.lines host) live (Text.lines text))
    (suits : Suits host tags)
    (covered : live ⊆ tags)
    (allowed : call.Allowed tags) :
    ∃ later,
      Layered (Text.lines host) later (Text.lines (call.after text)) ∧ later ⊆ tags := by
  cases call with
  | addOrUpdate tag anchor payload style =>
      obtain ⟨member, payloadUnmarked, clean⟩ := allowed
      simp only [Call.after, Call.run]
      cases merged : addOrUpdate text tag.name anchor payload style with
      | error error =>
          exact ⟨live, layered, covered⟩
      | ok result =>
          obtain ⟨later, laterLayered, onlyNew⟩ :=
            (addOrUpdate_name_eq_ok_iff.mp merged).layered layered (suits.unpaired member)
              clean (suits.unmarked tag member) payloadUnmarked
          exact
            ⟨later, laterLayered,
              List.Subset.trans onlyNew (List.cons_subset.mpr ⟨member, covered⟩)⟩
  | remove tag =>
      simp only [Call.after, Call.run, remove_name_eq]
      obtain ⟨rest, restLayered, _, restLive⟩ :=
        layered.removeTagged (suits.unpaired allowed)
      exact ⟨rest, restLayered, List.Subset.trans restLive covered⟩

/-- Any number of calls leave the host text with blocks of the tags in it. -/
theorem Layered.afterAll
    {calls : List Call}
    (layered : Layered (Text.lines host) live (Text.lines text))
    (suits : Suits host tags)
    (covered : live ⊆ tags)
    (allowed : ∀ call ∈ calls, call.Allowed tags) :
    ∃ later,
      Layered (Text.lines host) later (Text.lines (Call.afterAll text calls)) ∧
        later ⊆ tags := by
  induction calls generalizing text live with
  | nil =>
      exact ⟨live, layered, covered⟩
  | cons call rest inductionHypothesis =>
      obtain ⟨next, nextLayered, nextCovered⟩ :=
        layered.after suits covered (allowed call (by simp))
      exact inductionHypothesis nextLayered nextCovered
        fun other member => allowed other (List.mem_cons_of_mem call member)

/-- Taking out tags leaves the host text with blocks of other tags in it. -/
theorem Layered.removeAll
    {order : List Tag}
    (layered : Layered (Text.lines host) live (Text.lines text))
    (suits : Suits host tags)
    (ordered : order ⊆ tags) :
    ∃ final rest,
      removeAll text order = .ok final ∧
        Layered (Text.lines host) rest (Text.lines final) ∧
        rest ⊆ live ∧
        ∀ tag ∈ order, tag ∉ rest := by
  induction order generalizing text live with
  | nil =>
      exact ⟨text, live, rfl, layered, List.Subset.refl live, by simp⟩
  | cons tag others inductionHypothesis =>
      rw [List.cons_subset] at ordered
      obtain ⟨next, nextLayered, notInNext, nextLive⟩ :=
        layered.removeTagged (suits.unpaired ordered.1)
      obtain ⟨final, rest, removed, restLayered, restNext, othersGone⟩ :=
        inductionHypothesis nextLayered ordered.2
      refine ⟨final, rest, ?_, restLayered, List.Subset.trans restNext nextLive, ?_⟩
      · rw [Merge.removeAll, List.foldlM_cons, remove_name_eq]
        exact removed
      · intro other member
        rcases List.mem_cons.mp member with rfl | isLater
        · exact fun inRest => notInNext (restNext inRest)
        · exact othersGone other isLater

/--
In every text that calls can make of a host text, a tag has at most one pair of markers more than
in the host text, and taking out all tags, in any order, gives back the host text.
-/
theorem removeAll_afterAll
    (host : String)
    (tags : List Tag)
    (suits : Suits host tags)
    (calls : List Call)
    (allowed : ∀ call ∈ calls, call.Allowed tags) :
    (∀ tag ∈ tags, ∃ pairs ≤ 1,
      (Text.lines (Call.afterAll host calls)).countP (Marker.isBegin tag) =
          (Text.lines host).countP (Marker.isBegin tag) + pairs ∧
        (Text.lines (Call.afterAll host calls)).countP (Marker.isEnd tag) =
          (Text.lines host).countP (Marker.isEnd tag) + pairs) ∧
      ∀ order : List Tag,
        (∀ tag, tag ∈ order ↔ tag ∈ tags) →
          removeAll (Call.afterAll host calls) order = .ok host := by
  obtain ⟨live, layered, covered⟩ :=
    Layered.host.afterAll suits (List.nil_subset tags) allowed
  constructor
  · intro tag _
    refine ⟨if tag ∈ live then 1 else 0, ?_, layered.countP_isBegin, layered.countP_isEnd⟩
    split <;> decide
  · intro order allTags
    obtain ⟨final, rest, removed, restLayered, restLive, gone⟩ :=
      layered.removeAll suits fun tag member => (allTags tag).mp member
    obtain rfl : rest = [] := by
      rw [List.eq_nil_iff_forall_not_mem]
      intro tag inRest
      exact gone tag ((allTags tag).mpr (covered (restLive inRest))) inRest
    rw [removed, restLayered.eq_host]

/-- The block of one tag inside that of another one, in a text with an end marker to spare. -/
theorem removeAll_afterAll_nested :
    removeAll
        (Call.afterAll "x\r\n# @generated end outer\r\ny"
          [.addOrUpdate ⟨"outer", by decide⟩ (.literal "x" .after "") "p" .default,
            .addOrUpdate ⟨"inner", by decide⟩ (.literal "p" .after "") "q" .default])
        [⟨"outer", by decide⟩, ⟨"inner", by decide⟩] =
      .ok "x\r\n# @generated end outer\r\ny" := by
  have suits :
      Suits "x\r\n# @generated end outer\r\ny"
        [⟨"outer", by decide⟩, ⟨"inner", by decide⟩] := by
    constructor
    · simp only [List.forall_mem_cons]
      exact
        ⟨Marker.unmarked_of_notMem (by decide), Marker.unmarked_of_notMem (by decide),
          by simp⟩
    · simp only [List.forall_mem_cons]
      exact ⟨by decide, by decide, by simp⟩
  refine (removeAll_afterAll _ _ suits _ ?_).2 _ fun _ => Iff.rfl
  simp only [List.forall_mem_cons]
  exact
    ⟨⟨by decide, Marker.unmarked_of_notMem (by decide), CommentStyle.clean_default⟩,
      ⟨by decide, Marker.unmarked_of_notMem (by decide), CommentStyle.clean_default⟩, by simp⟩

end BlockSync.Merge
