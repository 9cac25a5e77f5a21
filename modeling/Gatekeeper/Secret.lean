import Gatekeeper.Text.Quoted

/-!
# Secrets

The protected value of a user with a live session, and the other values that a
call of the store can return.
-/

namespace Gatekeeper

/-- What a logged-in user may read. -/
structure Secret where
  user : String
  message : String
deriving DecidableEq, Repr

namespace Secret

def fields (s : Secret) : List String :=
  ["user_id=" ++ Text.quote s.user, "message=" ++ Text.quote s.message]

def describe (s : Secret) : String := "Secret(" ++ ", ".intercalate s.fields ++ ")"

def text (s : Secret) : String := " ".intercalate s.fields

end Secret

/-- What a call returns. -/
inductive Value where
  | done
  | flag (b : Bool)
  | secret (s : Secret)
deriving DecidableEq, Repr

namespace Value

def describe : Value → String
  | done => "None"
  | flag true => "True"
  | flag false => "False"
  | secret s => s.describe

end Value

end Gatekeeper
