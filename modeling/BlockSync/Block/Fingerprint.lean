import BlockSync.Digest.Sha1
import BlockSync.Regex.Matcher
import BlockSync.Text.Lines
import BlockSync.Text.Raw

namespace BlockSync

/-!
# Fingerprints

A fingerprint is the word `sync-` and the forty hexadecimal digits of the SHA-1 digest of a
payload. It is all that tells whether a block is up to date.
-/

/-- The text of a fingerprint. -/
abbrev Fingerprint := List Char

namespace Fingerprint

/-- The word that starts every fingerprint. -/
def leader : List Char := "sync-".toList

/-- The fingerprint of a payload of characters. -/
def ofPayload (payload : String) : Fingerprint :=
  leader ++ Digest.sha1 payload.toUTF8.data.toList

/-- The fingerprint of a payload, which has none unless it can be encoded. -/
def ofRaw (payload : RawText) : Except EncodeError Fingerprint :=
  payload.toText.map ofPayload

/-- A digit of a digest: lower case, unlike hexadecimal digits in general. -/
def digitTest : Regex.CharTest :=
  .set .exact false [.span '0'.toNat '9'.toNat, .span 'a'.toNat 'f'.toNat]

/-- Fingerprints in a line: the leading word, forty digits, and no word character after them. -/
def pattern : Regex.Pattern :=
  ⟨.seq (.ofText leader)
    (.seq (.loop .greedy 40 (some 40) (.char digitTest)) (.place (.wordBoundary false))), 0⟩

/-- The first fingerprint in a line. -/
def find? (line : Text.Line) : Option Fingerprint :=
  (pattern.search? line).map fun found => (line.drop found.start).take (found.stop - found.start)

end Fingerprint

end BlockSync
