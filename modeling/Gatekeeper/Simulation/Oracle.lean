import Gatekeeper.Backend.FailPoint
import Gatekeeper.Collection.Directory
import Gatekeeper.Collection.Roster
import Gatekeeper.Failure
import Gatekeeper.Secret
import Gatekeeper.Text.Split

/-!
# The oracle

What a store should do, without any hashing: passwords are kept as they are.
Fail points are touched in the order in which a store goes through the methods
they stand for, so the oracle also tells which calls fail on them.
-/

namespace Gatekeeper

/-- A store in plain text. -/
structure Oracle where
  template : String
  users : Directory String := .empty
  sessions : Roster String := .empty
  armed : Roster FailPoint := .empty
deriving DecidableEq

namespace Oracle

inductive Question where
  | register (user password : String)
  | login (line : String)
  | logout (user : String)
  | accessSecret (user : String)
  | arm (name : String)
deriving DecidableEq, Repr

def passwordOf? (o : Oracle) (user : String) : Option String := o.users.get? user

def checkIdentifier (user : String) : Except Failure Unit :=
  if UserId.WellFormed user then .ok () else .error (.malformed (.refused user))

def touch (o : Oracle) (point : FailPoint) : Except Failure Unit :=
  if point ∈ o.armed then .error (.refused (.storage point.name "fail point armed")) else .ok ()

def register (o : Oracle) (user password : String) : Except Failure (Value × Oracle) := do
  checkIdentifier user
  o.touch .getPassword
  if user ∈ o.users then throw (.refused (.alreadyRegistered user))
  o.touch .register
  return (.done, { o with users := o.users.insert user password })

def splitLine (line : String) : Except Failure (String × String) :=
  match Text.splitFirst? separator line.toList with
  | some (user, password) => .ok (String.ofList user, String.ofList password)
  | none => .error (.malformed (.refused line))

def login (o : Oracle) (line : String) : Except Failure (Value × Oracle) := do
  let (user, password) ← splitLine line
  checkIdentifier user
  o.touch .getPassword
  if o.passwordOf? user = some password then
    o.touch .addSession
    return (.flag true, { o with sessions := o.sessions.insert user })
  else
    return (.flag false, o)

def logout (o : Oracle) (user : String) : Except Failure (Value × Oracle) := do
  checkIdentifier user
  o.touch .removeSession
  return (.done, { o with sessions := o.sessions.erase user })

def accessSecret (o : Oracle) (user : String) : Except Failure (Value × Oracle) := do
  checkIdentifier user
  o.touch .hasSession
  if user ∈ o.sessions then
    match Template.render o.template user with
    | .ok message => return (.secret ⟨user, message⟩, o)
    | .error fault => throw (.template fault)
  else
    throw (.refused (.notAuthenticated user))

def arm (o : Oracle) (name : String) : Except Failure (Value × Oracle) :=
  match FailPoint.ofName? name with
  | some point => .ok (.done, { o with armed := o.armed.insert point })
  | none => .error (.unknownFailPoint name)

def answer (o : Oracle) : Question → Except Failure (Value × Oracle)
  | .register user password => o.register user password
  | .login line => o.login line
  | .logout user => o.logout user
  | .accessSecret user => o.accessSecret user
  | .arm name => o.arm name

/-- Answer a question; an oracle that fails stays as it was. -/
def ask (o : Oracle) (question : Question) : Except Failure Value × Oracle :=
  match o.answer question with
  | .ok (value, o) => (.ok value, o)
  | .error failure => (.error failure, o)

end Oracle

end Gatekeeper
