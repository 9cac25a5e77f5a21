import Gatekeeper.Text.Quoted

/-!
# UTF-8

Encoding and strict decoding.  The decoder takes one byte at a time and keeps
the bounds of the byte that may follow, so the first byte that rules the text
out is the one it stops at.  A fault names the longest valid beginning of the
offending sequence.
-/

namespace Gatekeeper

namespace Codec

namespace Utf8

def encodeChar (c : Char) : List UInt8 :=
  let n := c.toNat
  if n < 0x80 then
    [UInt8.ofNat n]
  else if n < 0x800 then
    [UInt8.ofNat (0xc0 + n / 64), UInt8.ofNat (0x80 + n % 64)]
  else if n < 0x10000 then
    [UInt8.ofNat (0xe0 + n / 4096), UInt8.ofNat (0x80 + n / 64 % 64), UInt8.ofNat (0x80 + n % 64)]
  else
    [UInt8.ofNat (0xf0 + n / 262144), UInt8.ofNat (0x80 + n / 4096 % 64),
      UInt8.ofNat (0x80 + n / 64 % 64), UInt8.ofNat (0x80 + n % 64)]

def encode (cs : List Char) : List UInt8 := cs.flatMap encodeChar

def encodeString (s : String) : List UInt8 := encode s.toList

inductive Reason where
  | invalidStart
  | invalidContinuation
  | unexpectedEnd
deriving DecidableEq, Repr

/-- A sequence that cannot be decoded: its first byte, where it starts, how much of it is valid. -/
structure Fault where
  lead : UInt8
  position : Nat
  length : Nat
  reason : Reason
deriving DecidableEq, Repr

namespace Reason

def message : Reason → String
  | invalidStart => "invalid start byte"
  | invalidContinuation => "invalid continuation byte"
  | unexpectedEnd => "unexpected end of data"

end Reason

namespace Fault

def message (fault : Fault) : String :=
  let place :=
    if fault.length ≤ 1 then
      "byte 0x" ++ String.ofList (Text.hexDigits 2 fault.lead.toNat) ++ " in position "
        ++ toString fault.position
    else
      "bytes in position " ++ toString fault.position ++ "-"
        ++ toString (fault.position + fault.length - 1)
  "'utf-8' codec can't decode " ++ place ++ ": " ++ fault.reason.message

end Fault

/--
A sequence under way: its first byte, how many bytes are read and how many are
owed, the number they stand for, and the bounds of the next byte.
-/
structure Sequence where
  lead : UInt8
  read : Nat
  owed : Nat
  code : Nat
  low : Nat
  high : Nat
deriving DecidableEq, Repr

/-- The sequence that a byte of `0x80` or more begins. -/
def begin? (byte : UInt8) : Option Sequence :=
  let n := byte.toNat
  if n < 0xc2 then none
  else if n < 0xe0 then some ⟨byte, 1, 1, n - 0xc0, 0x80, 0xbf⟩
  else if n = 0xe0 then some ⟨byte, 1, 2, 0, 0xa0, 0xbf⟩
  else if n = 0xed then some ⟨byte, 1, 2, 0xd, 0x80, 0x9f⟩
  else if n < 0xf0 then some ⟨byte, 1, 2, n - 0xe0, 0x80, 0xbf⟩
  else if n = 0xf0 then some ⟨byte, 1, 3, 0, 0x90, 0xbf⟩
  else if n < 0xf4 then some ⟨byte, 1, 3, n - 0xf0, 0x80, 0xbf⟩
  else if n = 0xf4 then some ⟨byte, 1, 3, 4, 0x80, 0x8f⟩
  else none

namespace Sequence

/-- The sequence with one more byte, which may be any continuation byte after the second. -/
def push (sequence : Sequence) (n : Nat) : Sequence :=
  { sequence with
    read := sequence.read + 1
    owed := sequence.owed - 1
    code := 64 * sequence.code + (n - 0x80)
    low := 0x80
    high := 0xbf }

end Sequence

/-- Decode what follows `position` bytes, the last of which may have begun a sequence. -/
def decodeFrom (position : Nat) : Option Sequence → List UInt8 → Except Fault (List Char)
  | none, [] => .ok []
  | some s, [] => .error ⟨s.lead, position - s.read, s.read, .unexpectedEnd⟩
  | none, byte :: rest =>
      if byte.toNat < 0x80 then
        (decodeFrom (position + 1) none rest).map (Char.ofNat byte.toNat :: ·)
      else
        match begin? byte with
        | none => .error ⟨byte, position, 1, .invalidStart⟩
        | some s => decodeFrom (position + 1) (some s) rest
  | some s, byte :: rest =>
      if s.low ≤ byte.toNat ∧ byte.toNat ≤ s.high then
        let s := s.push byte.toNat
        if s.owed = 0 then
          (decodeFrom (position + 1) none rest).map (Char.ofNat s.code :: ·)
        else
          decodeFrom (position + 1) (some s) rest
      else
        .error ⟨s.lead, position - s.read, s.read, .invalidContinuation⟩

def decode (bytes : List UInt8) : Except Fault (List Char) := decodeFrom 0 none bytes

end Utf8

end Codec

end Gatekeeper
