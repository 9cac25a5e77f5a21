/-!
# Base64

The standard alphabet with padding.  There are two readers of the same format.
The strict one refuses every character that is not due; the lenient one skips
characters outside the alphabet and stops at the first complete padding.  Both
ignore the bits that are left over at the end of the data, and both refuse data
that ends within a group of four.
-/

namespace Gatekeeper

namespace Codec

namespace Base64

def alphabet : List Char :=
  "ABCDEFGHIJKLMNOPQRSTUVWXYZabcdefghijklmnopqrstuvwxyz0123456789+/".toList

def digit (n : Nat) : Char := alphabet.getD n 'A'

def value? (c : Char) : Option Nat :=
  let n := c.toNat
  if 65 ≤ n ∧ n ≤ 90 then some (n - 65)
  else if 97 ≤ n ∧ n ≤ 122 then some (n - 71)
  else if 48 ≤ n ∧ n ≤ 57 then some (n + 4)
  else if n = 43 then some 62
  else if n = 47 then some 63
  else none

/-- Four characters for three bytes; the last group is filled up with padding. -/
def encode : List UInt8 → List Char
  | [] => []
  | [a] => [digit (a.toNat / 4), digit (a.toNat % 4 * 16), '=', '=']
  | [a, b] =>
      [digit (a.toNat / 4), digit (a.toNat % 4 * 16 + b.toNat / 16), digit (b.toNat % 16 * 4), '=']
  | a :: b :: c :: rest =>
      digit (a.toNat / 4) :: digit (a.toNat % 4 * 16 + b.toNat / 16)
        :: digit (b.toNat % 16 * 4 + c.toNat / 64) :: digit (c.toNat % 64) :: encode rest

inductive Fault where
  | notAscii
  | leadingPadding
  | excessData
  | foreignCharacter
  | discontinuousPadding
  | loneCharacter (count : Nat)
  | incompletePadding
deriving DecidableEq, Repr

namespace Fault

def message : Fault → String
  | notAscii => "string argument should contain only ASCII characters"
  | leadingPadding => "Leading padding not allowed"
  | excessData => "Excess data after padding"
  | foreignCharacter => "Only base64 data is allowed"
  | discontinuousPadding => "Discontinuous padding not allowed"
  | loneCharacter count =>
      "Invalid base64-encoded string: number of data characters (" ++ toString count
        ++ ") cannot be 1 more than a multiple of 4"
  | incompletePadding => "Incorrect padding"

end Fault

/-- A group of four characters under way: how many are read, and the bits not yet in a byte. -/
inductive Group where
  | empty
  | one (bits : Nat)
  | two (bits : Nat)
  | three (bits : Nat)
deriving DecidableEq, Repr

namespace Group

def size : Group → Nat
  | empty => 0
  | one _ => 1
  | two _ => 2
  | three _ => 3

/-- Take a six-bit value: the byte that is complete now, if any, and the group after it. -/
def push : Group → Nat → Option UInt8 × Group
  | empty, n => (none, one n)
  | one bits, n => (some (UInt8.ofNat (bits * 4 + n / 16)), two (n % 16))
  | two bits, n => (some (UInt8.ofNat (bits * 16 + n / 4)), three (n % 4))
  | three bits, n => (some (UInt8.ofNat (bits * 64 + n)), empty)

/-- What the end of the text means after `decoded` bytes. -/
def finish (decoded : Nat) : Group → Except Fault (List UInt8)
  | empty => .ok []
  | one _ => .error (.loneCharacter (decoded / 3 * 4 + 1))
  | two _ => .error .incompletePadding
  | three _ => .error .incompletePadding

end Group

def emit : Option UInt8 → Except Fault (List UInt8) → Except Fault (List UInt8)
  | none, rest => rest
  | some byte, rest => rest.map (byte :: ·)

/--
The strict reader within a text.  `pads` counts the padding since the last data,
and `padded` tells whether any padding came before.
-/
def strictFrom (decoded : Nat) (group : Group) (pads : Nat) (padded : Bool) :
    List Char → Except Fault (List UInt8)
  | [] => group.finish decoded
  | c :: rest =>
      if c = '=' then
        if 2 ≤ group.size then
          if 4 ≤ group.size + (pads + 1) then
            if rest.isEmpty then .ok [] else .error .excessData
          else
            strictFrom decoded group (pads + 1) true rest
        else
          strictFrom decoded group pads true rest
      else
        match value? c with
        | none => .error .foreignCharacter
        | some n =>
            if padded then
              .error .discontinuousPadding
            else
              let (byte, group) := group.push n
              emit byte (strictFrom (decoded + byte.toList.length) group 0 padded rest)

/-- Decode a text in which every character has to be due. -/
def decodeStrict (cs : List Char) : Except Fault (List UInt8) :=
  if cs.any (0x80 ≤ ·.toNat) then .error .notAscii
  else if cs.head? = some '=' then .error .leadingPadding
  else strictFrom 0 .empty 0 false cs

def lenientFrom (decoded : Nat) (group : Group) (pads : Nat) :
    List Char → Except Fault (List UInt8)
  | [] => group.finish decoded
  | c :: rest =>
      if c = '=' then
        if 2 ≤ group.size then
          if 4 ≤ group.size + (pads + 1) then .ok []
          else lenientFrom decoded group (pads + 1) rest
        else
          lenientFrom decoded group pads rest
      else
        match value? c with
        | none => lenientFrom decoded group pads rest
        | some n =>
            let (byte, group) := group.push n
            emit byte (lenientFrom (decoded + byte.toList.length) group 0 rest)

/-- Decode the characters of the alphabet in a text, up to complete padding. -/
def decodeLenient (cs : List Char) : Except Fault (List UInt8) :=
  if cs.any (0x80 ≤ ·.toNat) then .error .notAscii else lenientFrom 0 .empty 0 cs

end Base64

end Codec

end Gatekeeper
