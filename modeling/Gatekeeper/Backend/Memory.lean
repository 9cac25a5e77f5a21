import Gatekeeper.Collection.Directory
import Gatekeeper.Collection.Roster
import Gatekeeper.Password
import Gatekeeper.Text.Quoted

/-!
# What a backend holds

The registered users with their stored passwords, and the users with a session.
-/

namespace Gatekeeper

/-- A stored password.  Only the hashed form is meant to be stored. -/
inductive Stored where
  | hashed (hash : PasswordHash)
  | bare (text : String)
deriving DecidableEq

/-- How a stored password is shown: only a bare text shows what it is. -/
def Stored.describe : Stored → String
  | hashed hash => hash.describe
  | bare text => Text.quote text

/-- Users and sessions. -/
structure Memory where
  users : Directory Stored
  sessions : Roster String
deriving DecidableEq

namespace Memory

def empty : Memory := ⟨.empty, .empty⟩

instance : Inhabited Memory := ⟨empty⟩

/-- How the contents of a memory are shown: by counts alone. -/
def describe (m : Memory) : String :=
  "InMemoryDb(users=" ++ toString m.users.size ++ ", sessions=" ++ toString m.sessions.size ++ ")"

end Memory

end Gatekeeper
