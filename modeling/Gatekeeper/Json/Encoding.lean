import Gatekeeper.Codec.Utf8
import Gatekeeper.Json.Reader

/-!
# JSON as bytes

The encoding of a JSON text is told from its first bytes: a byte order mark
names it, and otherwise the zero bytes among the first four do, because a JSON
text begins with an ASCII character.  Half of a surrogate pair may be encoded like
a character, so what is decoded are code points.
-/

namespace Gatekeeper

namespace Json

inductive Encoding where
  | utf8
  | utf16 (bigEndian : Bool)
  | utf32 (bigEndian : Bool)
deriving DecidableEq, Repr

namespace Encoding

/-- The encoding of a text, and the bytes after the byte order mark. -/
def detect (bytes : List UInt8) : Encoding × List UInt8 :=
  match bytes with
  | 0 :: 0 :: 0xfe :: 0xff :: rest => (utf32 true, rest)
  | 0xff :: 0xfe :: 0 :: 0 :: rest => (utf32 false, rest)
  | 0xfe :: 0xff :: rest => (utf16 true, rest)
  | 0xff :: 0xfe :: rest => (utf16 false, rest)
  | 0xef :: 0xbb :: 0xbf :: rest => (utf8, rest)
  | a :: b :: c :: d :: _ =>
      if a = 0 then (if b = 0 then utf32 true else utf16 true, bytes)
      else if b = 0 then (if c = 0 ∧ d = 0 then utf32 false else utf16 false, bytes)
      else (utf8, bytes)
  | [a, b] =>
      if a = 0 then (utf16 true, bytes)
      else if b = 0 then (utf16 false, bytes)
      else (utf8, bytes)
  | _ => (utf8, bytes)

def unit (bigEndian : Bool) (bytes : List UInt8) : Nat :=
  (if bigEndian then bytes else bytes.reverse).foldl (fun n byte => 256 * n + byte.toNat) 0

def units16? (bigEndian : Bool) : List UInt8 → Option (List Nat)
  | [] => some []
  | a :: b :: rest => (units16? bigEndian rest).map (unit bigEndian [a, b] :: ·)
  | _ => none

def units32? (bigEndian : Bool) : List UInt8 → Option (List Nat)
  | [] => some []
  | a :: b :: c :: d :: rest => (units32? bigEndian rest).map (unit bigEndian [a, b, c, d] :: ·)
  | _ => none

/-- The code points of 16-bit units; half of a surrogate pair is a code point by itself. -/
def pairUp : List Nat → List Nat
  | [] => []
  | [n] => [n]
  | n :: m :: rest =>
      if 0xd800 ≤ n ∧ n ≤ 0xdbff ∧ 0xdc00 ≤ m ∧ m ≤ 0xdfff then
        (0x10000 + (n - 0xd800) * 0x400 + (m - 0xdc00)) :: pairUp rest
      else n :: pairUp (m :: rest)

/-- Decode UTF-8, of which the bytes `read` are kept reversed, up to half of a surrogate pair that
is encoded like a character, and go on behind it. -/
def codes8From? (read : List UInt8) : List UInt8 → Option (List Nat)
  | 0xed :: a :: b :: rest =>
      if 0xa0 ≤ a ∧ a ≤ 0xbf ∧ 0x80 ≤ b ∧ b ≤ 0xbf then do
        let before ← (Codec.Utf8.decode read.reverse).toOption
        let half := 0xd000 + (a.toNat - 0x80) * 0x40 + (b.toNat - 0x80)
        let behind ← codes8From? [] rest
        return before.map Char.toNat ++ half :: behind
      else codes8From? (0xed :: read) (a :: b :: rest)
  | byte :: rest => codes8From? (byte :: read) rest
  | [] => (Codec.Utf8.decode read.reverse).toOption.map (·.map Char.toNat)

def decode? : Encoding → List UInt8 → Option (List Nat)
  | utf8, bytes => codes8From? [] bytes
  | utf16 bigEndian, bytes => (units16? bigEndian bytes).map pairUp
  | utf32 bigEndian, bytes =>
      (units32? bigEndian bytes).filter fun codes => codes.all (· < 0x110000)

end Encoding

/-- Why bytes are no JSON: they are no text, or what the text says cannot be read. -/
inductive BytesFault where
  | noText
  | unreadable (fault : Fault)
deriving DecidableEq, Repr

/-- Read bytes with room for so many open arrays and objects. -/
def ofBytes (room : Nat) (bytes : List UInt8) : Except BytesFault Json :=
  let (encoding, rest) := Encoding.detect bytes
  match encoding.decode? rest with
  | none => .error .noText
  | some codes =>
      match readWithin room codes with
      | .ok value => .ok value
      | .error fault => .error (.unreadable fault)

end Json

end Gatekeeper
