import Gatekeeper.Config
import Gatekeeper.Secret
import Gatekeeper.Store.Method

/-!
# The credential store

Registration, login sessions and access to secrets.  Identifiers and credential
lines are checked before the backend is touched, so a malformed request leaves
nothing behind, and every call changes the backend at most once, as the last
thing that can fail.
-/

namespace Gatekeeper

/-- A store: its settings, where its salts come from, and its backend. -/
structure Store where
  config : Config := .standard
  salts : SaltSource := .counter
  /-- How many salts were drawn so far. -/
  draws : Nat := 0
  backend : Backend := .bare

instance : Inhabited Store := ⟨{}⟩

inductive Call where
  | register (user : String) (password : Password)
  | login (presented : Presented)
  | logout (user : String)
  | isLoggedIn (user : String)
  | accessSecret (user : String)
deriving DecidableEq

/-- A call of the store, or a change to what is armed on the outermost guard. -/
inductive Action where
  | call (call : Call)
  | arm (name : String)
  | disarm (name : String)
  | reset
deriving DecidableEq

structure Ended (α : Type) where
  result : Except Failure α
  store : Store
  events : List Event

namespace Ended

variable {α β : Type}

def records (e : Ended α) : List Log.Record := e.events.filterMap Event.record?

def map (f : α → β) (e : Ended α) : Ended β := { e with result := e.result.map f }

end Ended

namespace Store

def logger : String := "store"

def run {α : Type} (s : Store) (activity : Activity α) : Ended α :=
  let (result, p) := activity.run { backend := s.backend, draws := s.draws }
  ⟨result, { s with backend := p.backend, draws := p.draws }, p.events⟩

def hashPassword (config : Config) (salts : SaltSource) (password : Password) :
    Activity PasswordHash := do
  let salt ← Activity.drawSalt salts config.saltBytes
  match password.hash salt config.hashIterations with
  | .ok hash => return hash
  | .error fault => Activity.stop (.hashing fault)

/-- Register a user who is not registered yet. -/
def register (config : Config) (salts : SaltSource) (user : String) (password : Password) :
    Activity Unit := do
  let user ← Activity.demand (UserId.check user)
  match ← Backend.getPassword user with
  | some _ => Activity.refuse (.alreadyRegistered user)
  | none =>
      let hash ← hashPassword config salts password
      Backend.register user hash
      Activity.log .info logger ("registered user " ++ user)

/-- Whether a stored password is the one that is entered. -/
def verify (stored : Stored) (password : Password) : Activity Bool :=
  match stored with
  | .bare _ => Activity.stop .bareValue
  | .hashed hash =>
      match hash.verify password with
      | .ok matching => return matching
      | .error fault => Activity.stop (.verification fault)

def deny (user reason : String) : Activity Bool := do
  Activity.log .info logger ("login denied for " ++ user ++ ": " ++ reason)
  return false

/-- Open a session if the credentials are those of a registered user. -/
def login (presented : Presented) : Activity Bool := do
  let credentials ← Activity.demand presented.credentials
  let user := credentials.user
  match ← Backend.getPassword user with
  | none => deny user "not registered"
  | some stored =>
      if ← verify stored credentials.password then
        Backend.addSession user
        Activity.log .info logger ("login succeeded for " ++ user)
        return true
      else
        deny user "wrong password"

def logout (user : String) : Activity Unit := do
  let user ← Activity.demand (UserId.check user)
  Backend.removeSession user
  Activity.log .info logger ("logged out " ++ user)

def isLoggedIn (user : String) : Activity Bool := do
  let user ← Activity.demand (UserId.check user)
  Backend.hasSession user

def accessSecret (config : Config) (user : String) : Activity Secret := do
  let user ← Activity.demand (UserId.check user)
  if ← Backend.hasSession user then
    match Template.render config.secretTemplate user with
    | .ok message => return ⟨user, message⟩
    | .error fault => Activity.stop (.template fault)
  else
    Activity.refuse (.notAuthenticated user)

def activity (config : Config) (salts : SaltSource) : Call → Activity Value
  | .register user password => do
      register config salts user password
      return .done
  | .login presented => do return .flag (← login presented)
  | .logout user => do
      logout user
      return .done
  | .isLoggedIn user => do return .flag (← isLoggedIn user)
  | .accessSecret user => do return .secret (← accessSecret config user)

def perform (s : Store) (call : Call) : Ended Value := s.run (activity s.config s.salts call)

/-- Make a call, or arm or disarm fail points of the outermost guard. -/
def act (s : Store) : Action → Ended Value
  | .call call => s.perform call
  | .arm name => (s.run (Backend.arm 0 name)).map fun _ => .done
  | .disarm name => (s.run (Backend.disarm 0 name)).map fun _ => .done
  | .reset => (s.run (Backend.reset 0)).map fun _ => .done

/-- How a store is shown: by counts alone. -/
def describe (s : Store) : String :=
  "CredentialStore(users=" ++ toString s.backend.memory.users.size ++ ", sessions="
    ++ toString s.backend.memory.sessions.size ++ ")"

/-- Whether a user has a session, whatever is armed. -/
def IsLoggedIn (s : Store) (user : String) : Prop := user ∈ s.backend.memory.sessions

instance (s : Store) (user : String) : Decidable (s.IsLoggedIn user) :=
  inferInstanceAs (Decidable (user ∈ s.backend.memory.sessions))

end Store

end Gatekeeper
