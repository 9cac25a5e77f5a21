import Gatekeeper.Credentials
import Gatekeeper.Json.Showable
import Gatekeeper.Salt
import Gatekeeper.Template.Render

/-!
# Failures

A refusal is a failure that a caller of the store has to expect: a taken
identifier, malformed input, a missing session or a failing backend.  A wrong
password is none of these.  Every other abnormal end of a call is a `Failure`
that is no refusal.
-/

namespace Gatekeeper

inductive RefusalKind where
  | general
  | alreadyRegistered
  | malformedCredentials
  | notAuthenticated
  | storage
deriving DecidableEq, Repr

namespace RefusalKind

def name : RefusalKind → String
  | general => "CredentialStoreError"
  | alreadyRegistered => "AlreadyRegistered"
  | malformedCredentials => "MalformedCredentials"
  | notAuthenticated => "NotAuthenticated"
  | storage => "StorageError"

def all : List RefusalKind :=
  [general, alreadyRegistered, malformedCredentials, notAuthenticated, storage]

def ofName? (s : String) : Option RefusalKind := all.find? (·.name = s)

end RefusalKind

/-- What the store refuses a call with. -/
inductive Refusal where
  | general (text : String)
  | alreadyRegistered (user : String)
  | malformed (malformation : Malformation)
  | notAuthenticated (user : String)
  | storage (operation detail : String)
deriving DecidableEq, Repr

namespace Refusal

def kind : Refusal → RefusalKind
  | general _ => .general
  | alreadyRegistered _ => .alreadyRegistered
  | malformed _ => .malformedCredentials
  | notAuthenticated _ => .notAuthenticated
  | storage _ _ => .storage

def message : Refusal → String
  | general text => text
  | alreadyRegistered user => "User already registered: " ++ user
  | malformed malformation => "Malformed credentials: " ++ malformation.reason
  | notAuthenticated user => "Not authenticated: " ++ user
  | storage operation detail =>
      "Storage failure in " ++ operation ++ (if detail.isEmpty then "" else ": " ++ detail)

/-- What a refusal remembers besides its message, by name. -/
def attributes : Refusal → List (String × String)
  | general _ => []
  | alreadyRegistered user => [("user_id", user)]
  | malformed malformation => [("reason", malformation.reason)]
  | notAuthenticated user => [("user_id", user)]
  | storage operation _ => [("operation", operation)]

/-- The refusal of a kind that is made from texts; `none` if there are too few or too many. -/
def ofTexts? : RefusalKind → List String → Option Refusal
  | .general, [] => some (general "")
  | .general, [text] => some (general text)
  | .general, texts => some (general (Text.quoteTuple texts))
  | .alreadyRegistered, [user] => some (alreadyRegistered user)
  | .malformedCredentials, [reason] => some (malformed (.refused reason))
  | .notAuthenticated, [user] => some (notAuthenticated user)
  | .storage, [operation] => some (storage operation "")
  | .storage, [operation, detail] => some (storage operation detail)
  | _, _ => none

end Refusal

/-- How a call ends when it does not return. -/
inductive Failure where
  | refused (refusal : Refusal)
  | hashing (fault : Hash.Pbkdf2.Fault)
  | verification (fault : PasswordHash.Fault)
  | template (fault : Template.Fault)
  | salt (fault : SaltSource.Fault)
  /-- A stored value that is a bare text cannot verify a password. -/
  | bareValue
  /-- A backend without fail points cannot be told about them; the word is what was asked. -/
  | noFailPoints (request : String)
  | unknownFailPoint (name : String)
  | unknownOperation (word : String)
  /-- A word that is no operation has no user. -/
  | noUser
  | unknownKey (key : String)
  | cannotShrink
  /-- A list that diverges does not diverge any more once it is shrunk. -/
  | divergenceLost
  | emptyRange (first last : Int)
  | badInteger (fault : Text.IntegerFault)
  | notInitialized
  /-- A refused value that cannot be shown. -/
  | unshowable (obstacle : Json.Obstacle)
  /-- Refused bytes that cannot be shown because they are no text. -/
  | unshowableBytes (fault : Codec.Utf8.Fault)
deriving DecidableEq, Repr

namespace Failure

def message : Failure → String
  | refused refusal => refusal.message
  | hashing fault => fault.message
  | verification fault => fault.message
  | template fault => fault.message
  | salt fault => fault.message
  | bareValue => "'str' object has no attribute 'verify'"
  | noFailPoints request => "'InMemoryDb' object has no attribute '" ++ request ++ "'"
  | unknownFailPoint name => "Unknown fail point: " ++ name
  | unknownOperation word => "Unknown operation: " ++ Text.quote word
  | noUser => "'str' object has no attribute 'user'"
  | unknownKey key => Text.quote key
  | cannotShrink => "Cannot shrink a sequence that does not fail"
  | divergenceLost => ""
  | emptyRange first last =>
      "empty range for randrange() (" ++ toString first ++ ", " ++ toString (last + 1) ++ ", "
        ++ toString (last + 1 - first) ++ ")"
  | badInteger fault => fault.message
  | notInitialized => "Store not initialized"
  | unshowable obstacle => obstacle.message
  | unshowableBytes fault => fault.message

def malformed (malformation : Malformation) : Failure := refused (.malformed malformation)

end Failure

end Gatekeeper
