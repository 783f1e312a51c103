/-!
# UTF-8

Decoding bytes one at a time. The first byte of a character tells how many follow and what the
first of them may be; after that any continuation byte will do. A fault names the bytes of the
character that could not be finished and why.
-/

namespace Vigil

/-- Bytes as they stand on a pipe or in a file. -/
abbrev Bytes := List UInt8

namespace Text

/-- Why bytes are no UTF-8. -/
inductive Utf8Reason where
  | start
  | continuation
  | endOfData
  deriving Repr, DecidableEq

/-- A character that could not be decoded: its first byte, where it starts and how many bytes of
it were there. -/
structure Utf8Fault where
  reason : Utf8Reason
  byte : UInt8
  start : Nat
  count : Nat
  deriving Repr, DecidableEq

/-- The reason in words. -/
def Utf8Reason.message : Utf8Reason → String
  | .start => "invalid start byte"
  | .continuation => "invalid continuation byte"
  | .endOfData => "unexpected end of data"

/-- A byte as two hexadecimal digits. -/
def hexByte (b : UInt8) : String :=
  String.ofList [Nat.digitChar (b.toNat / 16), Nat.digitChar (b.toNat % 16)]

/-- The fault in words. -/
def Utf8Fault.message (f : Utf8Fault) : String :=
  let place :=
    if f.count = 1 then s!"byte 0x{hexByte f.byte} in position {f.start}"
    else s!"bytes in position {f.start}-{f.start + f.count - 1}"
  s!"'utf-8' codec can't decode {place}: {f.reason.message}"

/-- A character begun: where, with which byte, how many bytes of it were taken and how many are
left, its number so far, and what the next byte may be. -/
structure Pending where
  start : Nat
  byte : UInt8
  taken : Nat
  left : Nat
  code : Nat
  low : UInt8
  high : UInt8

/-- What a first byte beyond ASCII begins. -/
def Pending.begin? (position : Nat) (b : UInt8) : Option Pending :=
  if 0xC2 ≤ b ∧ b ≤ 0xDF then some ⟨position, b, 1, 1, b.toNat % 32, 0x80, 0xBF⟩
  else if 0xE0 ≤ b ∧ b ≤ 0xEF then
    some ⟨position, b, 1, 2, b.toNat % 16, if b = 0xE0 then 0xA0 else 0x80,
      if b = 0xED then 0x9F else 0xBF⟩
  else if 0xF0 ≤ b ∧ b ≤ 0xF4 then
    some ⟨position, b, 1, 3, b.toNat % 8, if b = 0xF0 then 0x90 else 0x80,
      if b = 0xF4 then 0x8F else 0xBF⟩
  else none

/-- Decodes from a position on, with the characters so far in reverse. -/
def decodeFrom (position : Nat) (done : List Char) (pending : Option Pending) :
    Bytes → Except Utf8Fault (List Char)
  | [] => match pending with
    | none => .ok done.reverse
    | some p => .error ⟨.endOfData, p.byte, p.start, p.taken⟩
  | b :: rest => match pending with
    | none =>
      if b < 0x80 then decodeFrom (position + 1) (Char.ofNat b.toNat :: done) none rest
      else match Pending.begin? position b with
        | some p => decodeFrom (position + 1) done (some p) rest
        | none => .error ⟨.start, b, position, 1⟩
    | some p =>
      if p.low ≤ b ∧ b ≤ p.high then
        let code := p.code * 64 + b.toNat % 64
        if p.left = 1 then decodeFrom (position + 1) (Char.ofNat code :: done) none rest
        else decodeFrom (position + 1) done
          (some { p with taken := p.taken + 1, left := p.left - 1, code, low := 0x80, high := 0xBF })
          rest
      else .error ⟨.continuation, p.byte, p.start, p.taken⟩

/-- The characters of UTF-8 bytes. -/
def decodeUtf8 (bytes : Bytes) : Except Utf8Fault (List Char) := decodeFrom 0 [] none bytes

/-- The UTF-8 bytes of a character. -/
def encodeChar (c : Char) : Bytes :=
  let n := c.toNat
  let tail (shift : Nat) : UInt8 := UInt8.ofNat (0x80 + n / Nat.pow 2 shift % 64)
  if n < 0x80 then [UInt8.ofNat n]
  else if n < 0x800 then [UInt8.ofNat (0xC0 + n / 64), tail 0]
  else if n < 0x10000 then [UInt8.ofNat (0xE0 + n / 4096), tail 6, tail 0]
  else [UInt8.ofNat (0xF0 + n / 262144), tail 12, tail 6, tail 0]

/-- The UTF-8 bytes of characters. -/
def encodeUtf8 (s : List Char) : Bytes := s.flatMap encodeChar

end Text

end Vigil
