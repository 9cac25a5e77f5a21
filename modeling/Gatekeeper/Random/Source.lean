import Gatekeeper.Failure

/-!
# Sources of chance

A source draws a number below a bound.  Everything random is made of such draws;
nothing but the range of a draw is promised about it.
-/

namespace Gatekeeper

/-- A way to draw numbers below a bound from a state. -/
structure RandomSource (σ : Type) where
  below : (bound : Nat) → 0 < bound → σ → Fin bound × σ

/-- A computation that draws numbers.  It fails where there is nothing to draw from. -/
abbrev Draw (σ α : Type) := ExceptT Failure (StateM σ) α

namespace Draw

variable {σ α : Type}

def below (source : RandomSource σ) (bound : Nat) (positive : 0 < bound) : Draw σ (Fin bound) :=
  ExceptT.lift (source.below bound positive)

def between (source : RandomSource σ) (first last : Int) : Draw σ Int := do
  if h : first ≤ last then
    let offset ← below source (last - first + 1).toNat (by omega)
    return first + offset.val
  else
    throw (.emptyRange first last)

def pick (source : RandomSource σ) (xs : List α) (nonempty : 0 < xs.length) : Draw σ α := do
  let i ← below source xs.length nonempty
  return xs[i]

def times (draw : Draw σ α) : (count : Nat) → Draw σ (List α)
  | 0 => return []
  | count + 1 => do
      let x ← draw
      let rest ← times draw count
      return x :: rest

end Draw

end Gatekeeper
