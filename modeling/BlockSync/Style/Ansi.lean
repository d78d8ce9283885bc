namespace BlockSync.Style

/-!
# Terminal styles

A style is switched on in front of a text and off after it. Where the text itself switches the
style off, it is switched on again; around a stretch that the text resets, and around every line
end, it is switched off for a moment.
-/

/-- A style by its codes: what switches it on, and what switches it off. -/
structure Effect where
  on : Nat
  off : Nat
  deriving Repr, DecidableEq

/-- Bold text. -/
def bold : Effect := ⟨1, 22⟩
/-- Dim text. -/
def dim : Effect := ⟨2, 22⟩
/-- Red text. -/
def red : Effect := ⟨31, 39⟩
/-- Green text. -/
def green : Effect := ⟨32, 39⟩
/-- Yellow text. -/
def yellow : Effect := ⟨33, 39⟩
/-- Blue text. -/
def blue : Effect := ⟨34, 39⟩
/-- Cyan text. -/
def cyan : Effect := ⟨36, 39⟩
/-- Gray text. -/
def gray : Effect := ⟨90, 39⟩
/-- Bright red text. -/
def brightRed : Effect := ⟨91, 39⟩

/-- The escape character. -/
def escape : Char := '\x1b'

/-- The sequence for a code. -/
def sequence (code : Nat) : List Char :=
  escape :: '[' :: (Nat.toDigits 10 code) ++ ['m']

/-- The sequence that resets all styles. -/
def reset : List Char := sequence 0

/-- Writes something after every occurrence of a text. Fuel of the length is enough. -/
def appendAfter (target addition : List Char) : Nat → List Char → List Char
  | 0, text => text
  | _ + 1, [] => []
  | fuel + 1, c :: rest =>
      if target.isPrefixOf (c :: rest) then
        target ++ addition ++ appendAfter target addition fuel ((c :: rest).drop target.length)
      else
        c :: appendAfter target addition fuel rest

/-- The text up to the next reset on the same line, that reset included, and the rest. -/
def takeToReset? : List Char → Option (List Char × List Char)
  | [] => none
  | c :: rest =>
      if c = '\n' then none
      else if reset.isPrefixOf (c :: rest) then
        some (reset, (c :: rest).drop reset.length)
      else
        (takeToReset? rest).map fun (taken, rest) => (c :: taken, rest)

/-- Switches off around every stretch between two resets. Fuel of the length is enough. -/
def aroundResets (on off : List Char) : Nat → List Char → List Char
  | 0, text => text
  | _ + 1, [] => []
  | fuel + 1, c :: rest =>
      if reset.isPrefixOf (c :: rest) then
        match takeToReset? ((c :: rest).drop reset.length) with
        | some (taken, others) =>
            off ++ reset ++ taken ++ on ++ aroundResets on off fuel others
        | none => c :: aroundResets on off fuel rest
      else
        c :: aroundResets on off fuel rest

/-- Switches off around every line end. -/
def aroundLineEnds (on off : List Char) : List Char → List Char
  | [] => []
  | '\r' :: '\n' :: rest => off ++ '\r' :: '\n' :: on ++ aroundLineEnds on off rest
  | '\n' :: rest => off ++ '\n' :: on ++ aroundLineEnds on off rest
  | c :: rest => c :: aroundLineEnds on off rest

/-- A text in some styles; without colours, and without a text, it stays as it is. -/
def paint (colored : Bool) (styles : List Effect) (text : List Char) : List Char :=
  if !colored || text.isEmpty then
    text
  else
    let on := styles.flatMap fun style => sequence style.on
    let off := styles.flatMap fun style => sequence style.off
    let inner := styles.foldl
      (fun text style =>
        appendAfter (sequence style.off) (sequence style.on) text.length text)
      text
    let inner := aroundResets on off inner.length inner
    on ++ aroundLineEnds on off inner ++ off

end BlockSync.Style
