import Gatekeeper.Json.Basic

/-!
# Requests and responses

What the service receives and what it sends.  The path of a request is already
decoded; of the headers of a name the first counts.  With a request comes the room that
the process it reaches has for calls inside each other, which depends on its stack and on
the calls that are under way.
-/

namespace Gatekeeper

namespace Http

structure Request where
  method : String
  path : String
  headers : List (String × String) := []
  body : List UInt8 := []
  /-- How many arrays and objects may be open at once while the body is read.  Without a value
  it is what a thousand calls, which is usual, leave beside those that are under way. -/
  readingRoom : Nat := 960
  /-- How many calls inside each other a refused value may take to be shown. -/
  showingRoom : Nat := 960
deriving DecidableEq, Repr

inductive Body where
  | json (value : Json)
  | plain (text : String)
deriving Repr

structure Response where
  status : Nat
  headers : List (String × String) := []
  body : Body
deriving Repr

namespace Request

/-- A text in lower case as far as it is ASCII. -/
def lower (s : String) : String := String.ofList (s.toList.map Char.toLower)

/-- The value of the first header of a name, whatever the case of its letters. -/
def header? (r : Request) (name : String) : Option String :=
  (r.headers.find? fun (key, _) => lower key = lower name).map (·.2)

end Request

namespace Response

def ok (status : Nat) (value : Json) : Response := { status, body := .json value }

def problem (status : Nat) (detail : String) : Response :=
  { status, body := .json (.object [("detail", .text detail)]) }

def notFound : Response := problem 404 "Not Found"

def methodNotAllowed (allowed : String) : Response :=
  { problem 405 "Method Not Allowed" with headers := [("allow", allowed)] }

/-- The path is to be asked for without its last slash. -/
def redirected : Response := { status := 307, body := .plain "" }

def unauthorized : Response :=
  { problem 401 "Not authenticated" with headers := [("www-authenticate", "Basic")] }

def internalError : Response := { status := 500, body := .plain "Internal Server Error" }

end Response

end Http

end Gatekeeper
