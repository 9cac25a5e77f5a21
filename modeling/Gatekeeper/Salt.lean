/-!
# Salts

Where salts come from.  A source gives the salt of each draw, by the number of
the draw and the length that is asked for.

It is assumed that a salt of any length can be drawn and hashed.  A system gives out no
`2 ^ 63` random bytes, and key derivation takes no salt and no password of `2 ^ 31` bytes
or more, while the settings have no upper bound for the length; so what is said of salts
is said of lengths below these.
-/

namespace Gatekeeper

structure SaltSource where
  draw : (number length : Nat) → List UInt8

namespace SaltSource

/-- The least significant `length` bytes of a number, least significant first. -/
def littleEndian : (length n : Nat) → List UInt8
  | 0, _ => []
  | length + 1, n => UInt8.ofNat n :: littleEndian length (n / 256)

/-- The source whose salts are the numbers of the draws. -/
def counter : SaltSource := ⟨fun number length => littleEndian length number⟩

/-- A salt of a negative length was asked for. -/
inductive Fault where
  | negativeLength
deriving DecidableEq, Repr

namespace Fault

def message : Fault → String
  | negativeLength => "negative argument not allowed"

end Fault

def drawOfLength (source : SaltSource) (number : Nat) (length : Int) : Except Fault (List UInt8) :=
  if length < 0 then .error .negativeLength else .ok (source.draw number length.toNat)

end SaltSource

end Gatekeeper
