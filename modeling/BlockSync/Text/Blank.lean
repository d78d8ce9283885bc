namespace BlockSync.Text

/-!
# Blank characters

The characters that separate words: the ASCII and Latin-1 separators, the information separators,
and the space, line and paragraph separators of Unicode.
-/

/-- A separator of words. -/
def isBlank (c : Char) : Bool :=
  let code := c.toNat
  (9 ≤ code && code ≤ 13) || (28 ≤ code && code ≤ 32) || code == 0x85 || code == 0xA0 ||
    code == 0x1680 || (0x2000 ≤ code && code ≤ 0x200A) || code == 0x2028 || code == 0x2029 ||
    code == 0x202F || code == 0x205F || code == 0x3000

/-- The blank characters among ASCII that regular expressions restricted to ASCII know. -/
def isAsciiBlank (c : Char) : Bool :=
  (9 ≤ c.toNat && c.toNat ≤ 13) || c.toNat == 32

/-- Drops the trailing characters that satisfy a test. -/
def trimEndWhile (test : Char → Bool) (text : List Char) : List Char :=
  (text.reverse.dropWhile test).reverse

/-- Drops blank characters at both ends. -/
def trim (text : List Char) : List Char :=
  trimEndWhile isBlank (text.dropWhile isBlank)

end BlockSync.Text
