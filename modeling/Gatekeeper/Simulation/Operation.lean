import Gatekeeper.Backend.FailPoint
import Gatekeeper.Text.Quoted

/-!
# Operations

What a simulation does to a store and its oracle.  A login names no password:
the right one and a wrong one are told apart by what the oracle knows.  Of each
kind there are simplest operations, and every operation has simpler variants
until it is one of these.
-/

namespace Gatekeeper

inductive Operation where
  | register (user password : String)
  | loginRight (user : String)
  | loginWrong (user : String)
  | logout (user : String)
  | accessSecret (user : String)
  | fail (point : String)
deriving DecidableEq, Repr

namespace Operation

def users : List String := [
  "Alice", "Bob", "Carol", "David", "Erin", "Frank", "Greta", "Holger", "Isabelle", "Jacob",
  "Kate", "Larry", "Margaret", "Noah", "Olivia", "Paul", "Quinn", "Robert", "Susan", "Thomas",
  "Ursula", "Vincent", "Wanda", "Xavier", "Yvonne", "Zachary"]

def simplestUser : String := "Alice"

def simplestPassword : String := "a"

def simplestPoint : String := FailPoint.register.name

def kind : Operation → String
  | register _ _ => "Register"
  | loginRight _ => "LoginWithCorrectPassword"
  | loginWrong _ => "LoginWithWrongPassword"
  | logout _ => "Logout"
  | accessSecret _ => "AccessSecret"
  | fail _ => "Fail"

/-- The user of an operation; arming a fail point has none. -/
def user? : Operation → Option String
  | register user _ | loginRight user | loginWrong user | logout user | accessSecret user =>
      some user
  | fail _ => none

def arguments : Operation → List (String × String)
  | register user password => [("user", user), ("password", password)]
  | loginRight user | loginWrong user | logout user | accessSecret user => [("user", user)]
  | fail point => [("point", point)]

def describe (op : Operation) : String :=
  op.kind ++ "("
    ++ ", ".intercalate (op.arguments.map fun (name, value) => name ++ "=" ++ Text.quote value)
    ++ ")"

def withUser (user : String) : Operation → Operation
  | register _ password => register user password
  | loginRight _ => loginRight user
  | loginWrong _ => loginWrong user
  | logout _ => logout user
  | accessSecret _ => accessSecret user
  | fail point => fail point

/-- The same operation for the simplest user, if that is another one. -/
def simplerUser (op : Operation) (user : String) : List Operation :=
  if user = simplestUser then [] else [op.withUser simplestUser]

/-- The operations that are simpler by one field. -/
def simpler : Operation → List Operation
  | fail point => if point = simplestPoint then [] else [fail simplestPoint]
  | register user password =>
      (if password = simplestPassword then [] else [register user simplestPassword])
        ++ simplerUser (register user password) user
  | loginRight user => simplerUser (loginRight user) user
  | loginWrong user => simplerUser (loginWrong user) user
  | logout user => simplerUser (logout user) user
  | accessSecret user => simplerUser (accessSecret user) user

/-- One for a text that is not the simplest one. -/
def excess (text simplest : String) : Nat := if text = simplest then 0 else 1

def noise : Operation → Nat
  | register user password => excess user simplestUser + excess password simplestPassword
  | loginRight user | loginWrong user | logout user | accessSecret user =>
      excess user simplestUser
  | fail point => excess point simplestPoint

theorem noise_lt_of_mem_simpler {op variant : Operation} (h : variant ∈ op.simpler) :
    variant.noise < op.noise := by
  cases op <;> simp only [simpler, simplerUser, withUser, List.mem_append] at h <;>
    grind [noise, excess]

end Operation

end Gatekeeper
