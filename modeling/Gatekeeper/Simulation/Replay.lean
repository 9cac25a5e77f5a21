import Gatekeeper.Simulation.Lockstep

/-!
# Replays

A list of operations is replayed on a fresh store and a fresh oracle until the
two disagree or the store breaks a rule.
-/

namespace Gatekeeper

/-- The first step at which store and oracle disagree or the store breaks a rule. -/
structure Divergence where
  index : Nat
  operation : Operation
  outcomes : Outcomes
  brokenRules : List String
deriving DecidableEq, Repr

namespace Divergence

def describe (d : Divergence) : String :=
  "\n".intercalate
    (["step " ++ toString d.index ++ ": " ++ d.operation.describe]
      ++ (if d.outcomes.Agree then []
        else ["  store: " ++ d.outcomes.actual.describe,
          "  model: " ++ d.outcomes.expected.describe])
      ++ (if d.brokenRules.isEmpty then []
        else ["  broken rules: " ++ ", ".intercalate d.brokenRules]))

end Divergence

namespace Lockstep

/-- Carry out operations up to the first divergence; `index` counts those before. -/
def divergenceFrom (index : Nat) (l : Lockstep) :
    List Operation → Except Failure (Option Divergence)
  | [] => .ok none
  | op :: rest =>
      match l.apply op with
      | (.error failure, _) => .error failure
      | (.ok outcomes, l) =>
          if outcomes.Agree ∧ l.brokenRules = [] then divergenceFrom (index + 1) l rest
          else .ok (some ⟨index, op, outcomes, l.brokenRules⟩)

end Lockstep

def replay (fresh : Store) (ops : List Operation) : Except Failure (Option Divergence) :=
  (Lockstep.start fresh).divergenceFrom 0 ops

def diverges (fresh : Store) (ops : List Operation) : Except Failure Bool :=
  (replay fresh ops).map Option.isSome

/-- The store of simulations: a sound memory behind one guard. -/
def simulatedStore : Store := { config := .simulation, backend := .guarded }

end Gatekeeper
