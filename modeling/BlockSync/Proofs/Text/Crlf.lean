import BlockSync.Proofs.Text.Lines
import Mathlib.Data.List.Forall2

namespace BlockSync.Text

/-!
# Lines that end in two characters

A line feed alone or a carriage return and a line feed end a line.  The lines of a text are the same
in both spellings, but for the carriage return at the end of each line that another one follows.
-/

/-- The text with a carriage return in front of every line feed. -/
def crlf (text : String) : String :=
  String.ofList (text.toList.flatMap fun c => if c = '\n' then ['\r', '\n'] else [c])

/-- Lines with a carriage return behind each that another one follows. -/
def returned : List Line → List Line
  | [] => []
  | [last] => [last]
  | first :: second :: rest => (first ++ ['\r']) :: returned (second :: rest)

/-- Whether a line is another one, with or without a carriage return behind it. -/
def SameUpToReturn (ended line : Line) : Prop :=
  ended = line ∨ ended = line ++ ['\r']

/-- Every line but the last one gets a carriage return. -/
theorem returned_concat (lines : List Line) (last : Line) :
    returned (lines ++ [last]) = lines.map (· ++ ['\r']) ++ [last] := by
  induction lines with
  | nil =>
      rfl
  | cons first rest inductionHypothesis =>
      obtain ⟨second, others, shape⟩ :=
        List.exists_cons_of_ne_nil
          (List.append_ne_nil_of_right_ne_nil rest (List.cons_ne_nil last []))
      rw [shape] at inductionHypothesis
      rw [List.cons_append, shape, returned, inductionHypothesis, List.map_cons, List.cons_append]

/-- Lines differ from those with carriage returns by these. -/
theorem sameUpToReturn_returned (lines : List Line) :
    List.Forall₂ SameUpToReturn (returned lines) lines := by
  fun_induction returned lines with
  | case1 =>
      exact .nil
  | case2 last =>
      exact .cons (Or.inl rfl) .nil
  | case3 first second rest inductionHypothesis =>
      exact .cons (Or.inr rfl) inductionHypothesis

/-- Carriage returns do not make lines out of none. -/
theorem returned_ne_nil
    {lines : List Line}
    (nonempty : lines ≠ []) :
    returned lines ≠ [] := by
  intro empty
  have same := sameUpToReturn_returned lines
  rw [empty, List.forall₂_nil_left_iff] at same
  exact nonempty same

/-- Carriage returns bring no line feeds. -/
theorem fedless_returned
    {lines : List Line}
    (fedless : ∀ line ∈ lines, '\n' ∉ line) :
    ∀ line ∈ returned lines, '\n' ∉ line := by
  fun_induction returned lines with
  | case1 =>
      simp
  | case2 last =>
      exact fedless
  | case3 first second rest inductionHypothesis =>
      rw [List.forall_mem_cons] at fedless ⊢
      exact ⟨by simp [fedless.1], inductionHypothesis fedless.2⟩

/-- A line without line feeds is spelled in one way. -/
private theorem flatMap_of_fedless
    {line : Line}
    (fedless : '\n' ∉ line) :
    (line.flatMap fun c => if c = '\n' then ['\r', '\n'] else [c]) = line := by
  induction line with
  | nil =>
      rfl
  | cons c rest inductionHypothesis =>
      rw [List.mem_cons, not_or] at fedless
      rw [List.flatMap_cons, if_neg (Ne.symm fedless.1), inductionHypothesis fedless.2]
      rfl

/-- To end every line in both characters is to put a carriage return behind each of them. -/
theorem crlf_ofLines
    {lines : List Line}
    (fedless : ∀ line ∈ lines, '\n' ∉ line) :
    crlf (ofLines lines) = ofLines (returned lines) := by
  rw [crlf, ofLines, ofLines, String.toList_ofList]
  congr 1
  fun_induction returned lines with
  | case1 =>
      rfl
  | case2 last =>
      simpa [joinWith] using flatMap_of_fedless (fedless last (by simp))
  | case3 first second rest inductionHypothesis =>
      rw [List.forall_mem_cons] at fedless
      obtain ⟨third, others, shape⟩ :=
        List.exists_cons_of_ne_nil (returned_ne_nil (List.cons_ne_nil second rest))
      rw [shape, joinWith_cons_cons, joinWith_cons_cons, ← shape, ← inductionHypothesis fedless.2,
        List.flatMap_append, flatMap_of_fedless fedless.1, List.flatMap_cons, if_pos rfl]
      simp

/-- The lines of a text in the other spelling. -/
theorem lines_crlf (text : String) : lines (crlf text) = returned (lines text) := by
  have fedless : ∀ line ∈ lines text, '\n' ∉ line :=
    fun _ => notMem_of_mem_lines
  have spelled := crlf_ofLines fedless
  rw [ofLines_lines] at spelled
  rw [spelled, lines_ofLines (returned_ne_nil (lines_ne_nil text)) (fedless_returned fedless)]

/-- Behind the line feed that ends a text there is an empty line. -/
theorem exists_lines_eq_concat_nil
    {text : String}
    (endsInFeed : text.toList.getLast? = some '\n') :
    ∃ first rest, lines text = (first :: rest) ++ [[]] := by
  obtain ⟨others, last, shape⟩ :=
    (List.eq_nil_or_concat' (lines text)).resolve_left (lines_ne_nil text)
  have inText : last ∈ lines text := by
    simp [shape]
  have noFeed := notMem_of_mem_lines inText
  have isSuffix : last <:+ text.toList :=
    suffix_of_mem_getLast?_lines (by simp [shape])
  have isEmpty : last = [] := by
    cases last using List.reverseRecOn with
    | nil =>
        rfl
    | append_singleton earlier c =>
        obtain ⟨above, whole⟩ := isSuffix
        rw [← whole, ← List.append_assoc, List.getLast?_concat, Option.some.injEq] at endsInFeed
        exact (noFeed (by simp [endsInFeed])).elim
  subst last
  cases others with
  | nil =>
      have empty : text = ofLines [[]] := by
        rw [← ofLines_lines text, shape]
        rfl
      rw [empty] at endsInFeed
      cases endsInFeed
  | cons first rest =>
      exact ⟨first, rest, shape⟩

end BlockSync.Text
