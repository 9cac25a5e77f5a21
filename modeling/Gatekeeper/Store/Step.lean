import Gatekeeper.Rule
import Gatekeeper.Store.Basic

/-!
# Steps

What a test can do to a store besides its calls: use the methods of its backend,
write into its memory without any check, and look at it.
-/

namespace Gatekeeper

inductive Method where
  | getPassword (user : String)
  | register (user : String) (hash : PasswordHash)
  | addSession (user : String)
  | removeSession (user : String)
  | hasSession (user : String)
deriving DecidableEq

inductive Planting where
  | password (user : String) (stored : Stored)
  /-- The first user gets the stored password of the second. -/
  | copy (user source : String)
  | session (user : String)
deriving DecidableEq

inductive Step where
  | act (action : Action)
  /-- Arm a fail point on the second guard. -/
  | armInner (name : String)
  | useMethod (method : Method)
  | plant (planting : Planting)
  | describe
  | validate
  | countUsers
  /-- Whether the backend has all methods of one. -/
  | isBackend
deriving DecidableEq

inductive Answer where
  | value (value : Value)
  | stored (stored? : Option Stored)
  | texts (texts : List String)
  | report (report : Report)
  | count (count : Nat)
deriving DecidableEq

namespace Method

def activity : Method → Activity Answer
  | getPassword user => do return .stored (← Backend.getPassword user)
  | register user hash => do
      Backend.register user hash
      return .value .done
  | addSession user => do
      Backend.addSession user
      return .value .done
  | removeSession user => do
      Backend.removeSession user
      return .value .done
  | hasSession user => do return .value (.flag (← Backend.hasSession user))

end Method

namespace Planting

def apply (m : Memory) : Planting → Except Failure Memory
  | password user stored => .ok { m with users := m.users.insert user stored }
  | copy user source =>
      match m.users.get? source with
      | some stored => .ok { m with users := m.users.insert user stored }
      | none => .error (.unknownKey source)
  | session user => .ok { m with sessions := m.sessions.insert user }

def activity (planting : Planting) : Activity Answer := do
  match planting.apply (← get).backend.memory with
  | .ok memory =>
      Backend.replaceMemory memory
      return .value .done
  | .error failure => Activity.stop failure

end Planting

namespace Store

def take (s : Store) : Step → Ended Answer
  | .act action => (s.act action).map .value
  | .armInner name => (s.run (Backend.armInner name)).map fun _ => .value .done
  | .useMethod method => s.run method.activity
  | .plant planting => s.run planting.activity
  | .describe => ⟨.ok (.texts [s.describe, s.backend.describe]), s, []⟩
  | .validate => ⟨.ok (.report (.ofMemory s.backend.memory)), s, []⟩
  | .countUsers => ⟨.ok (.count s.backend.memory.users.size), s, []⟩
  | .isBackend => ⟨.ok (.value (.flag true)), s, []⟩

/-- Take steps one after the other, whether they fail or not. -/
def takeAll (s : Store) (steps : List Step) : Store :=
  steps.foldl (fun s step => (s.take step).store) s

end Store

end Gatekeeper
