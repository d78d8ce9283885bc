namespace BlockSync.Text

/-!
# Reading UTF-8

Bytes are decoded strictly: overlong forms, surrogates and code points beyond the last plane are
refused. A refusal names the first byte that starts no character and how far the bytes after it
could still have belonged to one.
-/

/-- Why a sequence of bytes encodes no character. -/
inductive DecodeReason where
  | invalidStart
  | invalidContinuation
  | truncated
  deriving Repr, DecidableEq

/-- The first sequence of bytes that encodes no character. -/
structure DecodeError where
  reason : DecodeReason
  firstByte : UInt8
  position : Nat
  length : Nat
  deriving Repr, DecidableEq

/-- What is wrong with a sequence of bytes. -/
def DecodeReason.message : DecodeReason → String
  | .invalidStart => "invalid start byte"
  | .invalidContinuation => "invalid continuation byte"
  | .truncated => "unexpected end of data"

/-- The text of a refusal: one byte is shown, a longer sequence by its positions only. -/
def DecodeError.message (error : DecodeError) : String :=
  let place :=
    if error.length = 1 then
      let digits := Nat.toDigits 16 error.firstByte.toNat
      let digits := if digits.length < 2 then '0' :: digits else digits
      "byte 0x" ++ String.ofList digits ++ " in position " ++ toString error.position
    else
      "bytes in position " ++ toString error.position ++ "-" ++
        toString (error.position + error.length - 1)
  "'utf-8' codec can't decode " ++ place ++ ": " ++ error.reason.message

/-- A byte that continues a character. -/
def isContinuation (byte : UInt8) : Bool :=
  0x80 ≤ byte && byte ≤ 0xBF

/-- Whether a byte can follow the first byte of a character. -/
def canFollow (first second : UInt8) : Bool :=
  isContinuation second &&
    (first != 0xE0 || 0xA0 ≤ second) && (first != 0xED || second < 0xA0) &&
    (first != 0xF0 || 0x90 ≤ second) && (first != 0xF4 || second < 0x90)

/-- The six bits that a continuation byte carries. -/
def continuationBits (byte : UInt8) : Nat :=
  byte.toNat % 0x40

/-- Decodes the bytes from a position on, with the characters decoded so far in reverse. -/
def decodeFrom (position : Nat) (decoded : List Char) :
    List UInt8 → Except DecodeError (List Char)
  | [] => .ok decoded.reverse
  | a :: rest =>
      if a < 0x80 then
        decodeFrom (position + 1) (Char.ofNat a.toNat :: decoded) rest
      else if a < 0xC2 || 0xF4 < a then
        .error ⟨.invalidStart, a, position, 1⟩
      else
        match rest with
        | [] => .error ⟨.truncated, a, position, 1⟩
        | b :: rest =>
            if !canFollow a b then
              .error ⟨.invalidContinuation, a, position, 1⟩
            else if a < 0xE0 then
              let code := (a.toNat % 0x20) * 0x40 + continuationBits b
              decodeFrom (position + 2) (Char.ofNat code :: decoded) rest
            else
              match rest with
              | [] => .error ⟨.truncated, a, position, 2⟩
              | c :: rest =>
                  if !isContinuation c then
                    .error ⟨.invalidContinuation, a, position, 2⟩
                  else if a < 0xF0 then
                    let code := ((a.toNat % 0x10) * 0x40 + continuationBits b) * 0x40 +
                      continuationBits c
                    decodeFrom (position + 3) (Char.ofNat code :: decoded) rest
                  else
                    match rest with
                    | [] => .error ⟨.truncated, a, position, 3⟩
                    | d :: rest =>
                        if !isContinuation d then
                          .error ⟨.invalidContinuation, a, position, 3⟩
                        else
                          let code := (((a.toNat % 0x08) * 0x40 + continuationBits b) * 0x40 +
                            continuationBits c) * 0x40 + continuationBits d
                          decodeFrom (position + 4) (Char.ofNat code :: decoded) rest

/-- The text that bytes encode. -/
def decode (bytes : ByteArray) : Except DecodeError String :=
  (decodeFrom 0 [] bytes.data.toList).map String.ofList

/-- The bytes of a text. -/
def encode (text : String) : ByteArray :=
  text.toUTF8

/-- Writes every carriage return, with a line feed after it or not, as one line feed. -/
def withPlainLineEnds (text : String) : String :=
  let step : List Char × Bool → Char → List Char × Bool := fun (written, afterReturn) c =>
    if c = '\r' then ('\n' :: written, true)
    else if c = '\n' ∧ afterReturn then (written, false)
    else (c :: written, false)
  String.ofList (text.toList.foldl step ([], false)).1.reverse

end BlockSync.Text
