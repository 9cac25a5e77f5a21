import Gatekeeper.Text.Blank

/-!
# Hexadecimal byte strings

Bytes are written as two lower-case digits each.  Reading accepts either case
and ASCII blanks between the pairs, and reports the position of the first
character that does not fit.
-/

namespace Gatekeeper

namespace Codec

namespace Hex

def encodeByte (byte : UInt8) : List Char :=
  [Nat.digitChar (byte.toNat / 16), Nat.digitChar (byte.toNat % 16)]

def encode (bytes : List UInt8) : List Char := bytes.flatMap encodeByte

def value? (c : Char) : Option Nat :=
  let n := c.toNat
  if 48 ≤ n ∧ n ≤ 57 then some (n - 48)
  else if 97 ≤ n ∧ n ≤ 102 then some (n - 87)
  else if 65 ≤ n ∧ n ≤ 70 then some (n - 55)
  else none

/-- The position of the first character that is no digit where one is due. -/
structure Fault where
  position : Nat
deriving DecidableEq, Repr

namespace Fault

def message (fault : Fault) : String :=
  "non-hexadecimal number found in fromhex() arg at position " ++ toString fault.position

end Fault

/-- Read pairs of digits from a text that begins at `position`. -/
def decodeFrom (position : Nat) : List Char → Except Fault (List UInt8)
  | [] => .ok []
  | c :: rest =>
      if Text.isAsciiBlank c then
        decodeFrom (position + 1) rest
      else
        match value? c with
        | none => .error ⟨position⟩
        | some high =>
            match rest with
            | [] => .error ⟨position + 1⟩
            | d :: rest =>
                match value? d with
                | none => .error ⟨position + 1⟩
                | some low =>
                    (decodeFrom (position + 2) rest).map (UInt8.ofNat (16 * high + low) :: ·)

/-- Read a byte string; a character beyond ASCII is a fault wherever it stands. -/
def decode (cs : List Char) : Except Fault (List UInt8) :=
  match cs.findIdx? (0x80 ≤ ·.toNat) with
  | some position => .error ⟨position⟩
  | none => decodeFrom 0 cs

end Hex

end Codec

end Gatekeeper
