import Gatekeeper.Store.Basic
import Gatekeeper.Text.Split

/-!
# The contract of the calls

For each call of a store: under which conditions it has to be refused, and with
what kind of refusal; and what holds after it returns.  Conditions look at the
memory before the call, postconditions at the memory after it.
-/

namespace Gatekeeper

namespace Contract

inductive Operation where
  | register
  | login
  | logout
  | accessSecret
deriving DecidableEq, Repr

inductive Condition where
  | malformedIdentifier
  | takenIdentifier
  | missingSeparator
  | emptyIdentifier
  | noSession
deriving DecidableEq, Repr

inductive Postcondition where
  | registered
  | notLoggedIn
  | trueOpensSession
  | unknownDenied
  | sessionClosed
  | secretNamesUser
deriving DecidableEq, Repr

/-- A call with its inputs.  A login comes with the identifier that its line is about. -/
inductive Subject where
  | register (user password : String)
  | login (user line : String)
  | logout (user : String)
  | accessSecret (user : String)
deriving DecidableEq, Repr

namespace Condition

def name : Condition → String
  | malformedIdentifier => "malformed_user_id"
  | takenIdentifier => "duplicate_user_id"
  | missingSeparator => "missing_separator"
  | emptyIdentifier => "empty_identifier"
  | noSession => "no_session"

def description : Condition → String
  | malformedIdentifier => "Empty or colon-bearing id raises MalformedCredentials"
  | takenIdentifier => "Registering a taken id raises AlreadyRegistered"
  | missingSeparator => "Credentials without a colon raise MalformedCredentials"
  | emptyIdentifier => "Credentials with an empty identifier raise MalformedCredentials"
  | noSession => "Access without a session raises NotAuthenticated"

def kind : Condition → RefusalKind
  | malformedIdentifier | missingSeparator | emptyIdentifier => .malformedCredentials
  | takenIdentifier => .alreadyRegistered
  | noSession => .notAuthenticated

end Condition

namespace Postcondition

def name : Postcondition → String
  | registered => "user_is_registered"
  | notLoggedIn => "not_logged_in"
  | trueOpensSession => "true_opens_session"
  | unknownDenied => "unknown_user_denied"
  | sessionClosed => "session_closed"
  | secretNamesUser => "secret_names_user"

def description : Postcondition → String
  | registered => "Registered user is present in the backend"
  | notLoggedIn => "Registration does not open a session"
  | trueOpensSession => "A True login leaves the user logged in"
  | unknownDenied => "Login for an unregistered id returns False"
  | sessionClosed => "After logout the user has no session"
  | secretNamesUser => "The returned secret belongs to the caller"

end Postcondition

namespace Operation

def all : List Operation := [register, login, logout, accessSecret]

def name : Operation → String
  | register => "register"
  | login => "login"
  | logout => "logout"
  | accessSecret => "access_secret"

def ofName? (s : String) : Option Operation := all.find? (·.name = s)

def conditions : Operation → List Condition
  | register => [.malformedIdentifier, .takenIdentifier]
  | login => [.missingSeparator, .emptyIdentifier]
  | logout => [.malformedIdentifier]
  | accessSecret => [.malformedIdentifier, .noSession]

def postconditions : Operation → List Postcondition
  | register => [.registered, .notLoggedIn]
  | login => [.trueOpensSession, .unknownDenied]
  | logout => [.sessionClosed]
  | accessSecret => [.secretNamesUser]

end Operation

namespace Subject

def operation : Subject → Operation
  | register _ _ => .register
  | login _ _ => .login
  | logout _ => .logout
  | accessSecret _ => .accessSecret

def user : Subject → String
  | register user _ | login user _ | logout user | accessSecret user => user

/-- The password or the credential line that comes with the identifier, if there is one. -/
def text : Subject → String
  | register _ password => password
  | login _ line => line
  | logout _ | accessSecret _ => ""

def inputs : Subject → List String
  | register user password => [user, password]
  | login user line => [user, line]
  | logout user | accessSecret user => [user]

/-- The login with a line, taken to be about the text before its first separator. -/
def ofLine (line : String) : Subject := login (Text.upTo separator line) line

def call : Subject → Call
  | register user password => .register user ⟨password⟩
  | login _ line => .login (.line line)
  | logout user => .logout user
  | accessSecret user => .accessSecret user

end Subject

def Condition.Triggers (m : Memory) (subject : Subject) : Condition → Prop
  | malformedIdentifier => ¬ UserId.WellFormed subject.user
  | takenIdentifier => UserId.WellFormed subject.user ∧ subject.user ∈ m.users
  | missingSeparator => separator ∉ subject.text.toList
  | emptyIdentifier => subject.text.toList.head? = some separator
  | noSession => UserId.WellFormed subject.user ∧ subject.user ∉ m.sessions

instance (m : Memory) (subject : Subject) (condition : Condition) :
    Decidable (condition.Triggers m subject) := by
  cases condition <;> unfold Condition.Triggers <;> infer_instance

/-- When a postcondition holds of a call that returned a value. -/
def Postcondition.Holds (m : Memory) (subject : Subject) (value : Value) : Postcondition → Prop
  | registered => subject.user ∈ m.users
  | notLoggedIn => subject.user ∉ m.sessions
  | trueOpensSession => value = .flag false ∨ subject.user ∈ m.sessions
  | unknownDenied => subject.user ∈ m.users ∨ value = .flag false
  | sessionClosed => subject.user ∉ m.sessions
  | secretNamesUser => ∃ message, value = .secret ⟨subject.user, message⟩

instance (user : String) (value : Value) : Decidable (∃ message, value = .secret ⟨user, message⟩) :=
  match value with
  | .secret s =>
      if h : s.user = user then isTrue ⟨s.message, by simp [← h]⟩
      else isFalse fun ⟨_, e⟩ => h (by simp only [Value.secret.injEq] at e; simp [e])
  | .done => isFalse fun ⟨_, e⟩ => nomatch e
  | .flag _ => isFalse fun ⟨_, e⟩ => nomatch e

instance (m : Memory) (subject : Subject) (value : Value) (post : Postcondition) :
    Decidable (post.Holds m subject value) := by
  cases post <;> unfold Postcondition.Holds <;> infer_instance

/-- The first condition of a call that holds before it. -/
def firstTriggered (m : Memory) (subject : Subject) : Option Condition :=
  subject.operation.conditions.find? fun condition => decide (condition.Triggers m subject)

end Contract

end Gatekeeper
