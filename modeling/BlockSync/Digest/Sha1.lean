namespace BlockSync.Digest

/-!
# SHA-1

The message is padded to whole blocks of sixty-four bytes with its length in bits at the end; each
block is expanded to eighty words and mixed into five words of state.
-/

/-- The five words of state. -/
structure Sha1State where
  a : UInt32
  b : UInt32
  c : UInt32
  d : UInt32
  e : UInt32
  deriving Repr, DecidableEq

/-- Rotation of a word to the left. -/
def rotateLeft (word : UInt32) (amount : UInt32) : UInt32 :=
  (word <<< amount) ||| (word >>> (32 - amount))

/-- The state before the first block. -/
def Sha1State.start : Sha1State :=
  ⟨0x67452301, 0xEFCDAB89, 0x98BADCFE, 0x10325476, 0xC3D2E1F0⟩

/-- A number as bytes, most significant first. -/
def bytesOf (count value : Nat) : List UInt8 :=
  (List.range count).reverse.map fun place => (value / Nat.pow 256 place % 256).toUInt8

/-- A message with its padding: a one bit, zeros, and the length in bits. -/
def padded (message : List UInt8) : List UInt8 :=
  let length := message.length
  message ++ 0x80 :: List.replicate ((119 - length % 64) % 64) 0 ++ bytesOf 8 (8 * length)

/-- Four bytes at a time as words. -/
def wordsOf : List UInt8 → List UInt32
  | a :: b :: c :: d :: rest =>
      ((a.toUInt32 <<< 24) ||| (b.toUInt32 <<< 16) ||| (c.toUInt32 <<< 8) ||| d.toUInt32) ::
        wordsOf rest
  | _ => []

/-- Cuts a list into pieces of a given size; a shorter rest is dropped. -/
def chunksOf (size : Nat) : Nat → List α → List (List α)
  | 0, _ => []
  | count + 1, items => items.take size :: chunksOf size count (items.drop size)

/-- The eighty words of a block: each new word mixes four earlier ones. -/
def schedule (block : Array UInt32) : Array UInt32 :=
  (List.range 64).foldl
    (fun words k =>
      let at' := fun (back : Nat) => words.getD (k + 16 - back) 0
      words.push (rotateLeft (at' 3 ^^^ at' 8 ^^^ at' 14 ^^^ at' 16) 1))
    block

/-- The mixing function and the constant of a round. -/
def roundMix (round : Nat) (b c d : UInt32) : UInt32 × UInt32 :=
  if round < 20 then ((b &&& c) ||| ((b ^^^ 0xFFFFFFFF) &&& d), 0x5A827999)
  else if round < 40 then (b ^^^ c ^^^ d, 0x6ED9EBA1)
  else if round < 60 then ((b &&& c) ||| (b &&& d) ||| (c &&& d), 0x8F1BBCDC)
  else (b ^^^ c ^^^ d, 0xCA62C1D6)

/-- One round. -/
def Sha1State.step (words : Array UInt32) (state : Sha1State) (round : Nat) : Sha1State :=
  let (mixed, constant) := roundMix round state.b state.c state.d
  {
    a := rotateLeft state.a 5 + mixed + state.e + constant + words.getD round 0
    b := state.a
    c := rotateLeft state.b 30
    d := state.c
    e := state.d
  }

/-- Mixes a block of sixteen words into the state. -/
def Sha1State.absorb (state : Sha1State) (block : List UInt32) : Sha1State :=
  let words := schedule block.toArray
  let mixed := (List.range 80).foldl (Sha1State.step words) state
  ⟨state.a + mixed.a, state.b + mixed.b, state.c + mixed.c, state.d + mixed.d, state.e + mixed.e⟩

/-- The state after a whole message. -/
def Sha1State.ofMessage (message : List UInt8) : Sha1State :=
  let words := wordsOf (padded message)
  (chunksOf 16 (words.length / 16) words).foldl Sha1State.absorb Sha1State.start

/-- A hexadecimal digit of a word, counted from the least significant. -/
def hexDigit (word : UInt32) (place : Nat) : Char :=
  Nat.digitChar (word.toNat / Nat.pow 16 place % 16)

/-- The eight hexadecimal digits of a word. -/
def hexWord (word : UInt32) : List Char :=
  [7, 6, 5, 4, 3, 2, 1, 0].map (hexDigit word)

/-- The digest of a message, as forty hexadecimal digits. -/
def sha1 (message : List UInt8) : List Char :=
  let state := Sha1State.ofMessage message
  [state.a, state.b, state.c, state.d, state.e].flatMap hexWord

end BlockSync.Digest
