import Playground.Text.Hex

namespace Playground.Text

inductive Utf8Reason where
  | invalidStart
  | invalidContinuation
  | unexpectedEnd
deriving Repr, DecidableEq

def Utf8Reason.message : Utf8Reason → String
  | .invalidStart => "invalid start byte"
  | .invalidContinuation => "invalid continuation byte"
  | .unexpectedEnd => "unexpected end of data"

/-- A fault: the position and value of its first byte, and the number of bytes from there that are at fault. -/
structure Utf8Fault where
  reason : Utf8Reason
  position : Nat
  byte : Nat
  length : Nat
deriving Repr, DecidableEq

def Utf8Fault.message (f : Utf8Fault) : Text :=
  let place :=
    if f.length == 1 then "byte 0x".toList ++ hex 2 f.byte ++ " in position ".toList ++ ofNat f.position
    else "bytes in position ".toList ++ ofNat f.position ++ '-' :: ofNat (f.position + f.length - 1)
  "'utf-8' codec can't decode ".toList ++ place ++ ": ".toList ++ f.reason.message.toList

/-- What a first byte says: the number of bytes that follow, the bits it contributes, and the bounds of the
next byte. -/
structure Utf8Lead where
  following : Nat
  bits : Nat
  low : Nat := 0x80
  high : Nat := 0xBF

def utf8Lead? (b : Nat) : Option Utf8Lead :=
  if b < 0x80 then some ⟨0, b, 0x80, 0xBF⟩
  else if b < 0xC2 then none
  else if b < 0xE0 then some ⟨1, b - 0xC0, 0x80, 0xBF⟩
  else if b == 0xE0 then some ⟨2, 0, 0xA0, 0xBF⟩
  else if b == 0xED then some ⟨2, 0xD, 0x80, 0x9F⟩
  else if b < 0xF0 then some ⟨2, b - 0xE0, 0x80, 0xBF⟩
  else if b == 0xF0 then some ⟨3, 0, 0x90, 0xBF⟩
  else if b == 0xF4 then some ⟨3, 4, 0x80, 0x8F⟩
  else if b < 0xF4 then some ⟨3, b - 0xF0, 0x80, 0xBF⟩
  else none

/-- Reads the bytes that follow a first one, the next one within the given bounds: the code point, or why
there is none and how many bytes were fine. -/
def utf8Tail (low high : Nat) : (following value : Nat) → List UInt8 → Except (Utf8Reason × Nat) Nat
  | 0, value, _ => .ok value
  | _ + 1, _, [] => .error (.unexpectedEnd, 0)
  | following + 1, value, b :: rest =>
    let n := b.toNat
    if low ≤ n ∧ n ≤ high then
      match utf8Tail 0x80 0xBF following (value * 64 + (n - 0x80)) rest with
      | .ok value => .ok value
      | .error (reason, fine) => .error (reason, fine + 1)
    else .error (.invalidContinuation, 0)

/-- Decodes bytes from a position on, after `skip` bytes that belong to the character before. -/
def decodeUtf8From : (position skip : Nat) → List UInt8 → Except Utf8Fault Text
  | _, _, [] => .ok []
  | position, skip + 1, _ :: rest => decodeUtf8From (position + 1) skip rest
  | position, 0, b :: rest =>
    match utf8Lead? b.toNat with
    | none => .error ⟨.invalidStart, position, b.toNat, 1⟩
    | some lead =>
      match utf8Tail lead.low lead.high lead.following lead.bits rest with
      | .ok value => do
        return Char.ofNat value :: (← decodeUtf8From (position + 1) lead.following rest)
      | .error (reason, fine) => .error ⟨reason, position, b.toNat, fine + 1⟩

def decodeUtf8 (bytes : List UInt8) : Except Utf8Fault Text := decodeUtf8From 0 0 bytes

end Playground.Text
