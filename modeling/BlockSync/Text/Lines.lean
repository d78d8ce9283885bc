namespace BlockSync.Text

/-!
# Lines

A text is cut at every line feed and at nothing else, so joining the lines restores it. A carriage
return in front of a line feed stays at the end of its line.
-/

/-- A line of a text, without the line feed that ends it. -/
abbrev Line := List Char

/-- Cuts a text at every occurrence of a separator; there is always at least one piece. -/
def splitOn (separator : Char) (text : List Char) : List (List Char) :=
  text.foldr
    (fun c pieces =>
      if c = separator then
        [] :: pieces
      else
        match pieces with
        | [] => [[c]]
        | first :: rest => (c :: first) :: rest)
    [[]]

/-- Joins pieces with a separator between neighbours. -/
def joinWith (separator : Char) : List (List Char) → List Char
  | [] => []
  | first :: rest => first ++ rest.flatMap (separator :: ·)

/-- The lines of a text. -/
def lines (text : String) : List Line :=
  splitOn '\n' text.toList

/-- The text with the given lines. -/
def ofLines (lines : List Line) : String :=
  String.ofList (joinWith '\n' lines)

theorem splitOn_nil (separator : Char) : splitOn separator [] = [[]] := rfl

theorem splitOn_ne_nil (separator : Char) (text : List Char) :
    splitOn separator text ≠ [] := by
  cases text with
  | nil => simp [splitOn]
  | cons c rest =>
      simp only [splitOn, List.foldr_cons]
      split
      · simp
      · split <;> simp

/-- Joining the pieces restores the text. -/
theorem joinWith_splitOn (separator : Char) (text : List Char) :
    joinWith separator (splitOn separator text) = text := by
  induction text with
  | nil => rfl
  | cons c rest inductionHypothesis =>
      have nonempty := splitOn_ne_nil separator rest
      simp only [splitOn, List.foldr_cons] at *
      cases pieces : List.foldr (fun c pieces =>
          if c = separator then [] :: pieces
          else match pieces with
            | [] => [[c]]
            | first :: rest => (c :: first) :: rest) [[]] rest with
      | nil => exact absurd pieces nonempty
      | cons first others =>
          rw [pieces] at inductionHypothesis
          split
          · next equal => simpa [joinWith, equal] using inductionHypothesis
          · simpa [joinWith] using inductionHypothesis

/-- Drops the carriage return at the end of a line, once. -/
def withoutReturn (line : Line) : Line :=
  if line.getLast? = some '\r' then line.dropLast else line

end BlockSync.Text
