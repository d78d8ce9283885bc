import BlockSync.Text.Quoted

namespace BlockSync

/-!
# Raw texts

A text that comes from outside, such as a value given on a command line, may hold surrogates: code
points that stand for no character and that no encoding has. Most texts hold none of them.
-/

/-- A code point: a character, or a surrogate by its distance from the first one. -/
inductive CodePoint where
  | char (c : Char)
  | surrogate (distance : Fin 0x800)
  deriving Repr, DecidableEq

/-- A text that may hold surrogates. -/
abbrev RawText := List CodePoint

/-- A text that cannot be encoded: the first surrogates side by side, and where they start. -/
structure EncodeError where
  start : Nat
  surrogates : List (Fin 0x800)
  deriving Repr, DecidableEq

namespace CodePoint

/-- Whether a code point is a surrogate. -/
def isSurrogate : CodePoint → Bool
  | .char _ => false
  | .surrogate _ => true

/-- The character that a code point is, if it is one. -/
def char? : CodePoint → Option Char
  | .char c => some c
  | .surrogate _ => none

/-- A surrogate written as an escape. -/
def surrogateEscape (distance : Fin 0x800) : List Char :=
  '\\' :: 'u' :: Text.hexadecimal 4 (0xD800 + distance.val)

/-- A code point inside a text quoted with `quote`. -/
def escapeIn (quote : Char) : CodePoint → List Char
  | .char c => Text.escapeIn quote c
  | .surrogate distance => surrogateEscape distance

end CodePoint

/-- The message of a text that cannot be encoded. -/
def EncodeError.message (error : EncodeError) : String :=
  let subject :=
    match error.surrogates with
    | [distance] =>
        " '" ++ String.ofList (CodePoint.surrogateEscape distance) ++ "' in position " ++
          toString error.start
    | surrogates =>
        "s in position " ++ toString error.start ++ "-" ++
          toString (error.start + surrogates.length - 1)
  "'utf-8' codec can't encode character" ++ subject ++ ": surrogates not allowed"

namespace RawText

/-- A text of characters. -/
def ofString (text : String) : RawText := text.toList.map .char

/-- A text of characters counts as a raw one. -/
instance : Coe String RawText := ⟨ofString⟩

/-- The surrogates that a text starts with. -/
def leadingSurrogates : RawText → List (Fin 0x800)
  | .surrogate distance :: rest => distance :: leadingSurrogates rest
  | _ => []

/-- The characters of a text that starts at an offset, up to the first surrogate. -/
def toCharsFrom : Nat → RawText → Except EncodeError (List Char)
  | _, [] => .ok []
  | offset, .char c :: rest => (toCharsFrom (offset + 1) rest).map (c :: ·)
  | offset, .surrogate distance :: rest => .error ⟨offset, distance :: leadingSurrogates rest⟩

/-- A text as one of characters, which can be encoded. -/
def toText (raw : RawText) : Except EncodeError String :=
  (raw.toCharsFrom 0).map String.ofList

/-- Characters have no surrogate before them that could be come to first. -/
theorem toCharsFrom_map_char (offset : Nat) (chars : List Char) :
    toCharsFrom offset (chars.map .char) = .ok chars := by
  induction chars generalizing offset with
  | nil => rfl
  | cons c rest inductionHypothesis =>
      rw [List.map_cons, toCharsFrom, inductionHypothesis]
      rfl

/-- A text of characters is one. -/
@[simp] theorem toText_ofString (text : String) : (ofString text).toText = .ok text := by
  rw [toText, ofString, toCharsFrom_map_char, Except.map, String.ofList_toList]

/-- A text that starts at an offset is one of characters exactly if all its code points are. -/
theorem toCharsFrom_eq_ok_iff {offset : Nat} {raw : RawText} {chars : List Char} :
    raw.toCharsFrom offset = .ok chars ↔ raw = chars.map .char := by
  constructor
  · intro isText
    induction raw generalizing offset chars with
    | nil =>
        cases isText
        rfl
    | cons point rest inductionHypothesis =>
        cases point with
        | surrogate distance => cases isText
        | char c =>
            rw [toCharsFrom] at isText
            cases later : toCharsFrom (offset + 1) rest with
            | error error =>
                rw [later] at isText
                cases isText
            | ok others =>
                rw [later] at isText
                cases isText
                rw [List.map_cons, inductionHypothesis later]
  · rintro rfl
    exact toCharsFrom_map_char offset chars

/-- A raw text is a text of characters exactly if it can be encoded as that. -/
theorem toText_eq_ok_iff {raw : RawText} {text : String} :
    raw.toText = .ok text ↔ raw = ofString text := by
  constructor
  · intro isText
    rw [toText] at isText
    cases read : toCharsFrom 0 raw with
    | error error =>
        rw [read] at isText
        cases isText
    | ok chars =>
        rw [read] at isText
        cases isText
        rw [ofString, String.toList_ofList]
        exact toCharsFrom_eq_ok_iff.mp read
  · rintro rfl
    exact toText_ofString text

/-- A text between quotes. -/
def quoted (raw : RawText) : String :=
  let quote := Text.quoteFor (raw.filterMap CodePoint.char?)
  String.ofList (quote :: raw.flatMap (CodePoint.escapeIn quote) ++ [quote])

end RawText

/-- A text that holds a surrogate. -/
structure BrokenText where
  raw : RawText
  isBroken : raw.any CodePoint.isSurrogate = true

end BlockSync
