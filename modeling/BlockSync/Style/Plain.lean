import BlockSync.Style.Ansi

namespace BlockSync.Style

/-!
# Plain texts

A text without colours is a text without its control sequences: an escape character and an opening
bracket, any parameters, any intermediate characters, and one final character. The three classes
are ranges of ASCII that lie apart, so a sequence ends in one place at most. An escape character
that starts no sequence stays.
-/

/-- Whether a character lies between two others. -/
def isBetween (first last c : Char) : Bool := first ≤ c && c ≤ last

/-- What follows a sequence after its opening bracket; none if no final character ends it. -/
def afterSequence? (text : List Char) : Option (List Char) :=
  match (text.dropWhile (isBetween '0' '?')).dropWhile (isBetween ' ' '/') with
  | final :: rest => if isBetween '@' '~' final then some rest else none
  | [] => none

/-- A sequence is not empty. -/
theorem length_lt_of_afterSequence? {text rest : List Char} (h : afterSequence? text = some rest) :
    rest.length < text.length := by
  have inner := (List.dropWhile_sublist (isBetween '0' '?') (l := text)).length_le
  have outer := (List.dropWhile_sublist (isBetween ' ' '/')
    (l := text.dropWhile (isBetween '0' '?'))).length_le
  unfold afterSequence? at h
  split at h
  · next final others whole =>
    rw [whole] at outer
    split at h
    · cases h
      simp only [List.length_cons] at outer
      omega
    · cases h
  · cases h

/-- The characters of a text without its control sequences. -/
def plainChars : List Char → List Char
  | [] => []
  | [c] => [c]
  | c :: d :: text =>
      if c = escape ∧ d = '[' then
        match found : afterSequence? text with
        | some rest =>
            have := length_lt_of_afterSequence? found
            plainChars rest
        | none => c :: plainChars (d :: text)
      else
        c :: plainChars (d :: text)
termination_by text => text.length

/-- A text without its control sequences. -/
def plain (text : String) : String := String.ofList (plainChars text.toList)

end BlockSync.Style
