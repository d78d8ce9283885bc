namespace BlockSync.Text

/-!
# Line breaks of every kind

Readers of prose end a line at more than a line feed: at carriage returns, at the vertical and
form feeds, at the information separators, and at the separators of Unicode. A carriage return
followed by a line feed is one break. Each line keeps its break.
-/

/-- A character that ends a line. -/
def isLineBreak (c : Char) : Bool :=
  let code := c.toNat
  (10 ≤ code && code ≤ 13) || (28 ≤ code && code ≤ 30) || code == 0x85 || code == 0x2028 ||
    code == 0x2029

/-- The lines of a text with a character in front of it. -/
def breakStep (c : Char) : List (List Char) → List (List Char)
  | [] => [[c]]
  | first :: rest =>
      if c = '\r' ∧ first = ['\n'] then ['\r', '\n'] :: rest
      else if isLineBreak c then [c] :: first :: rest
      else (c :: first) :: rest

/-- Cuts a text after every line break; the empty text has no line. -/
def breakLines (text : List Char) : List (List Char) := text.foldr breakStep []

/-- Cutting loses nothing. -/
theorem flatten_breakLines (text : List Char) : (breakLines text).flatten = text := by
  induction text with
  | nil => rfl
  | cons c rest inductionHypothesis =>
      simp only [breakLines, List.foldr_cons, breakStep] at *
      split
      · next empty => rw [empty] at inductionHypothesis; simp_all
      · next first others pieces =>
          rw [pieces] at inductionHypothesis
          split
          · next both => simp_all
          · split <;> simpa using inductionHypothesis

/-- A text that ends in a line feed keeps it, any other gets one. -/
def endLine (line : List Char) : List Char :=
  if line.getLast? = some '\n' then line else line ++ ['\n']

end BlockSync.Text
