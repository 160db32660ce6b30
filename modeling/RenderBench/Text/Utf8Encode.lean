/-!
# `Text.Utf8Encode` — characters as UTF-8 bytes

The encoding of a text: one to four bytes per character.
-/

namespace RenderBench

/-- The byte of a continuation with the given six bits. -/
def continuationByte (bits : Nat) : UInt8 := UInt8.ofNat (0x80 + bits % 64)

/-- The bytes of a character. -/
def encodeChar (c : Char) : List UInt8 :=
  let n := c.toNat
  if n < 0x80 then [UInt8.ofNat n]
  else if n < 0x800 then [UInt8.ofNat (0xc0 + n / 64), continuationByte n]
  else if n < 0x10000 then
    [UInt8.ofNat (0xe0 + n / 4096), continuationByte (n / 64), continuationByte n]
  else
    [UInt8.ofNat (0xf0 + n / 262144), continuationByte (n / 4096), continuationByte (n / 64),
      continuationByte n]

/-- The bytes of a text. -/
def encodeUtf8 (cs : List Char) : List UInt8 := cs.flatMap encodeChar

end RenderBench
