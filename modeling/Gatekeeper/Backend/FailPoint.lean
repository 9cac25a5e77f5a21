/-!
# Fail points

The methods of a backend that can be made to fail.  Each is named for the method
it stands for.
-/

namespace Gatekeeper

/-- A method of a backend that a store goes through. -/
inductive FailPoint where
  | register
  | addSession
  | removeSession
  | getPassword
  | hasSession
deriving DecidableEq, Repr

namespace FailPoint

/-- All fail points; the first is the simplest. -/
def all : List FailPoint := [register, addSession, removeSession, getPassword, hasSession]

def name : FailPoint → String
  | register => "db.register"
  | addSession => "db.add_session"
  | removeSession => "db.remove_session"
  | getPassword => "db.get_pw"
  | hasSession => "db.has_session"

def ofName? (s : String) : Option FailPoint := all.find? (·.name = s)

theorem ofName?_name (point : FailPoint) : ofName? point.name = some point := by
  cases point <;> decide

theorem name_of_ofName? {s : String} {point : FailPoint} (known : ofName? s = some point) :
    point.name = s := by
  have found := List.find?_some (show all.find? (·.name = s) = some point from known)
  exact of_decide_eq_true found

end FailPoint

end Gatekeeper
