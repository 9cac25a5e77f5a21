import Gatekeeper.Backend.FailPoint
import Gatekeeper.Backend.Memory
import Gatekeeper.Failure

/-!
# Planted defects

Ways in which a memory can be made to misbehave, so that a harness has something
to find.  Several may be active together; the operations below are those of a
sound memory when none is.
-/

namespace Gatekeeper

inductive Defect where
  /-- Registrations are dropped. -/
  | dropRegister
  /-- From the threshold on registrations fail. -/
  | full
  /-- From the threshold on a registration also changes the first user's password. -/
  | overwrite
  /-- Passwords are stored as bare texts. -/
  | plaintext
  /-- Everyone is stored under the empty identifier. -/
  | emptyUser
  /-- Everyone is stored under a second identifier with a separator too. -/
  | colonUser
  /-- A registration opens a session. -/
  | autoSession
  /-- No session is ever opened. -/
  | noAddSession
  /-- A new session closes all others. -/
  | singleSession
  /-- A new session opens another one for nobody. -/
  | ghostSession
  /-- No session is ever closed. -/
  | noRemoveSession
  /-- Closing a session closes all. -/
  | clearSessions
  /-- Any session counts for everyone. -/
  | anySession
  /-- No session counts. -/
  | neverSession
deriving DecidableEq, Repr

namespace Defect

def all : List Defect := [dropRegister, full, overwrite, plaintext, emptyUser, colonUser,
  autoSession, noAddSession, singleSession, ghostSession, noRemoveSession, clearSessions,
  anySession, neverSession]

def name : Defect → String
  | dropRegister => "drop_register"
  | full => "full"
  | overwrite => "overwrite"
  | plaintext => "plaintext"
  | emptyUser => "empty_user"
  | colonUser => "colon_user"
  | autoSession => "auto_session"
  | noAddSession => "no_add_session"
  | singleSession => "single_session"
  | ghostSession => "ghost_session"
  | noRemoveSession => "no_remove_session"
  | clearSessions => "clear_sessions"
  | anySession => "any_session"
  | neverSession => "never_session"

def ofName? (s : String) : Option Defect := all.find? (·.name = s)

end Defect

/-- The active defects, and the number of users from which two of them show. -/
structure Defects where
  active : List Defect := []
  threshold : Int := 4
deriving DecidableEq, Repr

namespace Defects

def none : Defects := {}

def has (d : Defects) (defect : Defect) : Bool := d.active.contains defect

def reached (d : Defects) (m : Memory) : Bool := d.threshold ≤ (m.users.size : Int)

/-- Give the first user a password, if there is one. -/
def overwriteFirst (m : Memory) (hash : PasswordHash) : Memory :=
  match m.users.keys.head? with
  | some first => { m with users := m.users.insert first (.hashed hash) }
  | Option.none => m

def register (d : Defects) (m : Memory) (user : String) (hash : PasswordHash) :
    Except Refusal Memory :=
  if d.has .dropRegister then .ok m
  else if d.has .full && d.reached m then .error (.storage FailPoint.register.name "full")
  else
    let m := if d.has .overwrite && d.reached m then overwriteFirst m hash else m
    let value := if d.has .plaintext then Stored.bare hash.text else .hashed hash
    if d.has .emptyUser then
      .ok { m with users := m.users.insert "" value }
    else
      let users := m.users.insert user value
      let users :=
        if d.has .colonUser then users.insert (user ++ separator.toString) value else users
      let sessions := if d.has .autoSession then m.sessions.insert user else m.sessions
      .ok ⟨users, sessions⟩

def addSession (d : Defects) (m : Memory) (user : String) : Memory :=
  if d.has .noAddSession then m
  else
    let sessions := if d.has .singleSession then .empty else m.sessions
    let sessions := sessions.insert user
    { m with
      sessions := if d.has .ghostSession then sessions.insert (user ++ "#ghost") else sessions }

def removeSession (d : Defects) (m : Memory) (user : String) : Memory :=
  if d.has .noRemoveSession then m
  else
    let sessions := if d.has .clearSessions then .empty else m.sessions
    { m with sessions := sessions.erase user }

def hasSession (d : Defects) (m : Memory) (user : String) : Bool :=
  if d.has .anySession then m.sessions.size ≠ 0
  else if d.has .neverSession then false
  else user ∈ m.sessions

@[simp] theorem register_none (m : Memory) (user : String) (hash : PasswordHash) :
    none.register m user hash = .ok { m with users := m.users.insert user (.hashed hash) } := rfl

@[simp] theorem addSession_none (m : Memory) (user : String) :
    none.addSession m user = { m with sessions := m.sessions.insert user } := rfl

@[simp] theorem removeSession_none (m : Memory) (user : String) :
    none.removeSession m user = { m with sessions := m.sessions.erase user } := rfl

@[simp] theorem hasSession_none (m : Memory) (user : String) :
    none.hasSession m user = decide (user ∈ m.sessions) := rfl

end Defects

end Gatekeeper
