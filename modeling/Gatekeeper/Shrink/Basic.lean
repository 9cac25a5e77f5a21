import Gatekeeper.Log
import Gatekeeper.Shrink.Deletion
import Gatekeeper.Shrink.Simplification
import Gatekeeper.Shrink.Subsequence

/-!
# Shrinking

A failing list of operations is reduced in rounds.  A round deletes chunks while
the list is longer than a limit, looks for the smallest failing subsequence once
it is not, and simplifies what is left.  Rounds go on as long as one makes the
list lighter, so in the end no single deletion or simplification leaves it
failing.
-/

namespace Gatekeeper

namespace Shrink

structure Round where
  before : Nat
  after : Nat
  /-- Whether the list stayed too long for looking at its subsequences. -/
  aboveLimit : Bool
deriving DecidableEq, Repr

def logger : String := "validation.simulation"

namespace Round

def records (r : Round) : List Log.Record :=
  (if r.aboveLimit then
    [⟨.debug, logger, toString r.after ++ " operations left, above exhaustive limit"⟩]
  else
    []) ++
  [⟨.debug, logger,
    "shrunk " ++ toString r.before ++ " -> " ++ toString r.after ++ " operations"⟩]

end Round

/-- A list that was shrunk, and the rounds it took. -/
structure Shrunk where
  operations : List Operation
  rounds : List Round
deriving DecidableEq, Repr

namespace Shrunk

def records (s : Shrunk) : List Log.Record := s.rounds.flatMap Round.records

end Shrunk

/-- What every successful step of shrinking makes less. -/
def weight (ops : List Operation) : Nat := ops.length + noise ops

variable {m : Type → Type} [Monad m]

/-- Delete chunks, if a list is longer than the limit. -/
def reduce (fails : List Operation → m Bool) (limit : Int) (ops : List Operation) :
    m (List Operation) :=
  if limit < ops.length then deleteChunks fails ops else pure ops

/-- Look for the smallest failing subsequence, unless a list is longer than the limit. -/
def minimize (fails : List Operation → m Bool) (limit : Int) (ops : List Operation) :
    m (List Operation) :=
  if limit < ops.length then pure ops else smallestSubsequence fails ops

def inRounds (fails : List Operation → m Bool) (limit : Int) (ops : List Operation) :
    m Shrunk := do
  let reduced ← reduce fails limit ops
  let least ← minimize fails limit reduced
  let after ← simplify fails least
  let round : Round := ⟨ops.length, after.length, decide (limit < reduced.length)⟩
  if _ : weight after < weight ops then
    let shrunk ← inRounds fails limit after
    return { shrunk with rounds := round :: shrunk.rounds }
  else
    return ⟨after, [round]⟩
termination_by weight ops

def shrink (fails : List Operation → m Bool) (limit : Int) (ops : List Operation) :
    m (Option Shrunk) := do
  if ← fails ops then
    return some (← inRounds fails limit ops)
  else
    return none

/-- Whether a list fails with some simpler variant in the place of an operation. -/
def failsSimplified (fails : List Operation → m Bool) (before : List Operation) (op : Operation)
    (after : List Operation) : m Bool :=
  op.simpler.anyM fun variant => fails (before ++ variant :: after)

/-- Whether no deletion or simplification of a single operation of `rest` fails. -/
def resists (fails : List Operation → m Bool) (before : List Operation) :
    (rest : List Operation) → m Bool
  | [] => pure true
  | op :: rest => do
      if ← fails (before ++ rest) then
        return false
      else if ← failsSimplified fails before op rest then
        return false
      else
        resists fails (before ++ [op]) rest

/-- Whether a list fails and no deletion or simplification of a single operation does. -/
def isLocallyMinimal (fails : List Operation → m Bool) (ops : List Operation) : m Bool := do
  if ← fails ops then resists fails [] ops else return false

end Shrink

end Gatekeeper
