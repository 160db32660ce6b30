import RenderBench.Text.Quoted

/-!
# `Text.Utf8` — reading bytes as UTF-8

A text file is the UTF-8 encoding of its characters. Bytes that are none are refused at the first
offending sequence, with the reason and the bytes it covers.

## Contents
- `Utf8Fault`: what is wrong and where; `Utf8Fault.message`.
- `decodeUtf8`: the characters of a list of bytes.
-/

namespace RenderBench

inductive Utf8Reason where
  | invalidStart
  | invalidContinuation
  | unexpectedEnd
  deriving DecidableEq

/-- A sequence of bytes that encodes nothing. -/
structure Utf8Fault where
  reason : Utf8Reason
  /-- The position of the first byte of the sequence. -/
  position : Nat
  /-- How many bytes it covers, at least one. -/
  length : Nat
  /-- The first byte. -/
  byte : UInt8
  deriving DecidableEq

def Utf8Reason.text : Utf8Reason → String
  | .invalidStart => "invalid start byte"
  | .invalidContinuation => "invalid continuation byte"
  | .unexpectedEnd => "unexpected end of data"

def Utf8Fault.message (f : Utf8Fault) : String :=
  if f.length = 1 then
    "'utf-8' codec can't decode byte 0x" ++ String.ofList (hexDigits 2 f.byte.toNat) ++
      " in position " ++ natText f.position ++ ": " ++ f.reason.text
  else
    "'utf-8' codec can't decode bytes in position " ++ natText f.position ++ "-" ++
      natText (f.position + f.length - 1) ++ ": " ++ f.reason.text

/-- Bytes that continue a sequence. -/
def isContinuation (b : UInt8) : Bool := 0x80 ≤ b && b < 0xc0

/-- Whether a second byte can follow a first one: it continues, and the sequence encodes neither a
    character that has a shorter form, nor a surrogate, nor one beyond the last character. -/
def secondFits (first second : UInt8) : Bool :=
  isContinuation second &&
    (if first == 0xe0 then 0xa0 ≤ second
     else if first == 0xed then second < 0xa0
     else if first == 0xf0 then 0x90 ≤ second
     else if first == 0xf4 then second < 0x90
     else true)

/-- The character of leading payload bits followed by those of continuation bytes. -/
def assembled (lead : Nat) (tail : List UInt8) : Char :=
  Char.ofNat (tail.foldl (fun n b => n * 64 + b.toNat % 64) lead)

/-- The characters of bytes that start at a position. -/
def decodeUtf8From (position : Nat) : List UInt8 → Except Utf8Fault (List Char)
  | [] => .ok []
  | a :: rest =>
    let fault (reason : Utf8Reason) (length : Nat) : Except Utf8Fault (List Char) :=
      .error ⟨reason, position, length, a⟩
    if a < 0x80 then
      (decodeUtf8From (position + 1) rest).map (Char.ofNat a.toNat :: ·)
    else if a < 0xc2 then fault .invalidStart 1
    else if a < 0xe0 then
      match rest with
      | [] => fault .unexpectedEnd 1
      | b :: rest =>
        if !isContinuation b then fault .invalidContinuation 1
        else (decodeUtf8From (position + 2) rest).map (assembled (a.toNat % 32) [b] :: ·)
    else if a < 0xf0 then
      match rest with
      | [] => fault .unexpectedEnd 1
      | b :: rest =>
        if !secondFits a b then fault .invalidContinuation 1
        else match rest with
          | [] => fault .unexpectedEnd 2
          | c :: rest =>
            if !isContinuation c then fault .invalidContinuation 2
            else (decodeUtf8From (position + 3) rest).map (assembled (a.toNat % 16) [b, c] :: ·)
    else if a < 0xf5 then
      match rest with
      | [] => fault .unexpectedEnd 1
      | b :: rest =>
        if !secondFits a b then fault .invalidContinuation 1
        else match rest with
          | [] => fault .unexpectedEnd 2
          | c :: rest =>
            if !isContinuation c then fault .invalidContinuation 2
            else match rest with
              | [] => fault .unexpectedEnd 3
              | d :: rest =>
                if !isContinuation d then fault .invalidContinuation 3
                else (decodeUtf8From (position + 4) rest).map
                  (assembled (a.toNat % 8) [b, c, d] :: ·)
    else fault .invalidStart 1

/-- The characters a list of bytes encodes. -/
def decodeUtf8 (bytes : List UInt8) : Except Utf8Fault (List Char) := decodeUtf8From 0 bytes

end RenderBench
