import Gatekeeper.Hash.Hmac

/-!
# Password-based key derivation

PBKDF2 with HMAC-SHA256 and a 32-byte result.  The iteration count is any
integer; the counts outside `1` to `2 ^ 31 - 1` are refused, each with its own
cause.  That passwords and salts of `2 ^ 31` bytes or more are refused as well is left
out: they are assumed to be shorter.
-/

namespace Gatekeeper

namespace Hash

namespace Pbkdf2

inductive Fault where
  | tooWide
  | notPositive
  | tooGreat
deriving DecidableEq, Repr

namespace Fault

def message : Fault → String
  | tooWide => "Python int too large to convert to C long"
  | notPositive => "iteration value must be greater than 0."
  | tooGreat => "iteration value is too great."

end Fault

/-- `n` further codes, each of the one before, all folded into `sum`. -/
def iterate (key : Hmac.Key) : Nat → (last sum : Words) → Words
  | 0, _, sum => sum
  | n + 1, last, sum =>
      let next := Hmac.codeOfDigest key last
      iterate key n next (sum.xor next)

/-- The derived 32 bytes for a prepared key and a positive count. -/
def deriveWith (key : Hmac.Key) (salt : List UInt8) (iterations : Nat) : List UInt8 :=
  let first := Hmac.code key (salt ++ [0, 0, 0, 1])
  (iterate key (iterations - 1) first first).toBytes

/-- The greatest count that is not refused: `2 ^ 31 - 1`. -/
def maxIterations : Nat := 2147483647

def refusal? (iterations : Int) : Option Fault :=
  if iterations < Int64.minValue.toInt ∨ Int64.maxValue.toInt < iterations then some .tooWide
  else if iterations < 1 then some .notPositive
  else if (maxIterations : Int) < iterations then some .tooGreat
  else none

def derive (password salt : List UInt8) (iterations : Int) : Except Fault (List UInt8) :=
  match refusal? iterations with
  | some fault => .error fault
  | none => .ok (deriveWith (Hmac.prepare password) salt iterations.toNat)

end Pbkdf2

end Hash

end Gatekeeper
