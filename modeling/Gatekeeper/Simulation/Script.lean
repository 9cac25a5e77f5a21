import Gatekeeper.Simulation.Replay

/-!
# Scripts

A script is a list of operations as it was written down: among them there may
be words that are no operations.
-/

namespace Gatekeeper

/-- An operation, or a word that is none. -/
inductive ScriptItem where
  | operation (op : Operation)
  | unknown (word : String)
deriving DecidableEq, Repr

namespace ScriptItem

def apply (l : Lockstep) : ScriptItem → Except Failure Outcomes × Lockstep
  | operation op => l.apply op
  | unknown word => (.error (.unknownOperation word), l)

def simpler : ScriptItem → Except Failure (List Operation)
  | operation op => .ok op.simpler
  | unknown _ => .error .noUser

def operation? : ScriptItem → Except Failure Operation
  | operation op => .ok op
  | unknown _ => .error .noUser

end ScriptItem

namespace Script

/-- The result of a step: the outcomes, or why there are none, and the broken rules after it. -/
structure Step where
  outcomes : Except Failure Outcomes
  brokenRules : List String

def steps (l : Lockstep) : List ScriptItem → List Step
  | [] => []
  | item :: rest =>
      let (outcomes, l) := item.apply l
      ⟨outcomes, l.brokenRules⟩ :: steps l rest

/-- The operations before the first unknown word, and that word. -/
def untilUnknown : List ScriptItem → List Operation × Option String
  | [] => ([], none)
  | .operation op :: rest =>
      let (ops, word?) := untilUnknown rest
      (op :: ops, word?)
  | .unknown word :: _ => ([], some word)

/-- Replay a script.  An unknown word ends it, unless the operations before it diverge. -/
def replay (fresh : Store) (items : List ScriptItem) : Except Failure (Option Divergence) :=
  let (ops, word?) := untilUnknown items
  match Gatekeeper.replay fresh ops, word? with
  | .ok none, some word => .error (.unknownOperation word)
  | result, _ => result

end Script

end Gatekeeper
