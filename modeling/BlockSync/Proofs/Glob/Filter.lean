import BlockSync.Proofs.Except
import BlockSync.Targets

namespace BlockSync

/-!
# Patterns that cannot be read

The target files of patterns are found unless one of the patterns, or of the excluded ones, cannot
be read, of which the first is reported, or the directory to start from cannot be resolved.  A
filter with further rules behind it decides as before wherever none of these says otherwise.
-/

namespace Glob.Filter

variable {patterns : List String} {fault : Fault}

/-- What is wrong with the first pattern that cannot be read. Empty patterns are left out. -/
def fault? (patterns : List String) : Option Fault :=
  (patterns.filter (!·.isEmpty)).findSome? fun text => (Rule.parse text).error?

/-- The first of all patterns that cannot be read is among the first ones, if any of those is. -/
theorem fault?_append (others : List String) :
    fault? (patterns ++ others) = (fault? patterns).or (fault? others) := by
  rw [fault?, List.filter_append, List.findSome?_append]
  rfl

/-- Patterns are refused for the first of them that cannot be read. -/
theorem parse_eq_error_iff : parse patterns = .error fault ↔ fault? patterns = some fault :=
  Except.mapM_eq_error_iff

/-- Patterns are a filter if each of them can be read. -/
theorem exists_parse_of_fault?_eq_none
    (readable : fault? patterns = none) :
    ∃ filter, parse patterns = .ok filter := by
  cases parsed : parse patterns with
  | error fault =>
      rw [parse_eq_error_iff, readable] at parsed
      cases parsed
  | ok filter =>
      exact ⟨filter, rfl⟩

/-- The rules of all patterns are those of the first ones and those of the others. -/
theorem parse_append_of_eq_ok
    {others : List String}
    {filter further : Filter}
    (parsed : parse patterns = .ok filter)
    (parsedOthers : parse others = .ok further) :
    parse (patterns ++ others) = .ok (filter ++ further) := by
  rw [parse] at parsed parsedOthers
  rw [parse, List.filter_append, List.mapM_append, parsed, parsedOthers]
  rfl

/-- Rules behind a filter decide, and the filter where they say nothing. -/
theorem accepts_append
    (filter further : Filter)
    (path : List Char) :
    accepts (filter ++ further) path =
      ((further.reverse.findSome? fun rule => rule.verdict? path).or
        (filter.reverse.findSome? fun rule => rule.verdict? path)).getD false := by
  rw [accepts, List.reverse_append, List.findSome?_append]

/-- What a filter accepts, it does with further rules behind it that do not speak against it. -/
theorem accepts_append_of_accepts
    {filter further : Filter}
    {path : List Char}
    (accepted : filter.accepts path = true)
    (unopposed : ∀ rule ∈ further, rule.verdict? path ≠ some false) :
    accepts (filter ++ further) path = true := by
  rw [accepts_append]
  cases later : further.reverse.findSome? fun rule => rule.verdict? path with
  | none =>
      exact accepted
  | some verdict =>
      obtain ⟨rule, member, verdictOfRule⟩ := List.exists_of_findSome?_eq_some later
      cases verdict with
      | true =>
          rfl
      | false =>
          exact (unopposed rule (List.mem_reverse.mp member) verdictOfRule).elim

end Glob.Filter

open Glob.Filter in
/-- There are no target files if a pattern cannot be read or the directory cannot be resolved. -/
theorem resolveTargets_eq_error_iff
    {tree : FileNode}
    {root : FilePath}
    {patterns exclude : List String}
    {fault : Fault} :
    resolveTargets tree root patterns exclude = .error fault ↔
      fault? (patterns ++ exclude) = some fault ∨
        fault? (patterns ++ exclude) = none ∧
          ∃ error, tree.resolve root = .error error ∧ fault = .path error := by
  rw [fault?_append, resolveTargets]
  cases unreadable : fault? patterns with
  | some first =>
      rw [parse_eq_error_iff.mpr unreadable]
      simp [bind, Except.bind]
  | none =>
      obtain ⟨included, parsed⟩ := exists_parse_of_fault?_eq_none unreadable
      rw [parsed, Option.none_or]
      cases unreadable : fault? exclude with
      | some first =>
          rw [parse_eq_error_iff.mpr unreadable]
          simp [bind, Except.bind]
      | none =>
          obtain ⟨excluded, parsed⟩ := exists_parse_of_fault?_eq_none unreadable
          rw [parsed]
          cases tree.resolve root with
          | error error =>
              simp [bind, Except.bind, Except.mapError, eq_comm]
          | ok resolved =>
              simp [bind, Except.bind, Except.mapError, pure, Except.pure]

end BlockSync
