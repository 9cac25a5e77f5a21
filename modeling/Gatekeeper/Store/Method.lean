import Gatekeeper.Store.Activity

/-!
# The methods of a backend

The five methods through which a store uses its backend, and the arming of fail
points.  A method first passes the guards: it fails if its fail point is armed
on any of them, and leaves the memory as it is.
-/

namespace Gatekeeper

namespace Backend

def pass (point : FailPoint) : Activity Unit := do
  Activity.note (.invoked point)
  if (← get).backend.isArmed point then
    Activity.refuse (.storage point.name "fail point armed")

def replaceMemory (memory : Memory) : Activity Unit :=
  modify fun p => { p with backend := { p.backend with memory } }

def getPassword (user : String) : Activity (Option Stored) := do
  pass .getPassword
  return (← get).backend.memory.users.get? user

def register (user : String) (hash : PasswordHash) : Activity Unit := do
  pass .register
  let b := (← get).backend
  match b.defects.register b.memory user hash with
  | .ok memory => replaceMemory memory
  | .error refusal => Activity.refuse refusal

def addSession (user : String) : Activity Unit := do
  pass .addSession
  let b := (← get).backend
  replaceMemory (b.defects.addSession b.memory user)

def removeSession (user : String) : Activity Unit := do
  pass .removeSession
  let b := (← get).backend
  replaceMemory (b.defects.removeSession b.memory user)

def hasSession (user : String) : Activity Bool := do
  pass .hasSession
  let b := (← get).backend
  return b.defects.hasSession b.memory user

/-- Change what is armed on the guard at a depth; `request` is the word for it. -/
def rearm (depth : Nat) (request : String) (change : Roster FailPoint → Roster FailPoint) :
    Activity Unit := do
  match (← get).backend.updateGuard? depth change with
  | some backend => modify fun p => { p with backend }
  | none => Activity.stop (.noFailPoints request)

def arm (depth : Nat) (name : String) : Activity Unit := do
  match FailPoint.ofName? name with
  | some point =>
      rearm depth "arm" (·.insert point)
      Activity.log .debug "backends" ("arming fail point " ++ name)
  | none =>
      rearm depth "arm" id
      Activity.stop (.unknownFailPoint name)

def armInner (name : String) : Activity Unit := do
  if (← get).backend.guards.isEmpty then Activity.stop (.noFailPoints "inner") else arm 1 name

/-- Disarm the fail point of a name; a name that is not known is not armed. -/
def disarm (depth : Nat) (name : String) : Activity Unit :=
  rearm depth "disarm" fun guard =>
    match FailPoint.ofName? name with
    | some point => guard.erase point
    | none => guard

def reset (depth : Nat) : Activity Unit := rearm depth "reset" fun _ => .empty

end Backend

end Gatekeeper
