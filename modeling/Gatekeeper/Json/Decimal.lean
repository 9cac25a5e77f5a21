/-!
# Decimals as floating-point numbers

The 64-bit floating-point number nearest to `mantissa * 10 ^ exponent`.  Whether
it is finite is decided in exact arithmetic and without computing powers that are
larger than the mantissa calls for.
-/

namespace Gatekeeper

namespace Json

namespace Decimal

/-- The least magnitude that is rounded to infinity: half a step above the greatest number. -/
def overflow : Nat := (1 <<< 1024) - (1 <<< 970)

/-- Whether the nearest floating-point number is finite. -/
def isFinite (mantissa exponent : Int) : Bool :=
  let m := mantissa.natAbs
  match exponent with
  | .ofNat e => m = 0 || (e ≤ 308 && m * Nat.pow 10 e < overflow)
  | .negSucc e => m.log2 ≤ e || m < overflow * Nat.pow 10 (e + 1)

/-- Whether the nearest floating-point number is zero because the decimal is beyond all others. -/
def isTiny (mantissa exponent : Int) : Bool :=
  mantissa = 0 || exponent + mantissa.natAbs.log2 < -330

def nearest (mantissa exponent : Int) : Float :=
  let magnitude :=
    if isTiny mantissa exponent then 0.0
    else if isFinite mantissa exponent then
      Float.ofScientific mantissa.natAbs (exponent < 0) exponent.natAbs
    else 1.0 / 0.0
  if mantissa < 0 then -magnitude else magnitude

end Decimal

end Json

end Gatekeeper
