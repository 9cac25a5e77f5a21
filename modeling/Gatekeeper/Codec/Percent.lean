import Gatekeeper.Codec.Hex
import Gatekeeper.Codec.Utf8

/-!
# Percent encoding

A text as it is written into a segment of a path.  Letters, digits and four marks
stand for themselves; every other byte of the text is written as a percent sign and
two hexadecimal digits.  Reading leaves a percent sign without two digits after it as
it is.
-/

namespace Gatekeeper

namespace Codec

namespace Percent

def isUnreserved (c : Char) : Bool := c.isAlphanum || "-._~".toList.contains c

def digit (n : Nat) : Char := (Nat.digitChar n).toUpper

def encodeByte (byte : UInt8) : List Char :=
  let c := Char.ofNat byte.toNat
  if isUnreserved c then [c] else ['%', digit (byte.toNat / 16), digit (byte.toNat % 16)]

def encode (cs : List Char) : List Char := (Utf8.encode cs).flatMap encodeByte

/-- The byte that three characters stand for, if they are a percent sign and two digits. -/
def escaped? (mark high low : Char) : Option UInt8 :=
  if mark = '%' then
    match Hex.value? high, Hex.value? low with
    | some high, some low => some (UInt8.ofNat (16 * high + low))
    | _, _ => none
  else
    none

def bytes : List Char → List UInt8
  | mark :: high :: low :: rest =>
      match escaped? mark high low with
      | some byte => byte :: bytes rest
      | none => Utf8.encodeChar mark ++ bytes (high :: low :: rest)
  | cs => Utf8.encode cs

def decode (cs : List Char) : Except Utf8.Fault (List Char) := Utf8.decode (bytes cs)

end Percent

end Codec

end Gatekeeper
