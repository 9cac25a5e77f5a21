import Gatekeeper.Simulation.Operation

/-!
# Simplification of operations

In a failing list each operation is replaced by a simpler variant of it, as long
as there is one that leaves the list failing.
-/

namespace Gatekeeper

namespace Shrink

variable {m : Type → Type} [Monad m]

/-- How many fields of all operations are not the simplest ones. -/
def noise : List Operation → Nat
  | [] => 0
  | op :: rest => op.noise + noise rest

/-- Replace each operation of `rest` by its first variant that fails, if there is one. -/
def simplifyEach (fails : List Operation → m Bool) (done : List Operation) :
    (rest : List Operation) → m (List Operation)
  | [] => pure done
  | op :: rest => do
      match ← op.simpler.findM? fun variant => fails (done ++ variant :: rest) with
      | some variant => simplifyEach fails (done ++ [variant]) rest
      | none => simplifyEach fails (done ++ [op]) rest

/-- Go over the list again as long as that makes some field simplest. -/
def simplify (fails : List Operation → m Bool) (ops : List Operation) : m (List Operation) := do
  let after ← simplifyEach fails [] ops
  if _ : noise after < noise ops then
    simplify fails after
  else
    return after
termination_by noise ops

end Shrink

end Gatekeeper
