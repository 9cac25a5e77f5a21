import Gatekeeper.Http.Message
import Gatekeeper.Text.Split

/-!
# Routes

Which paths there are and with which method each is asked for.  A line feed at
the end of a path without parameter does not count.

The pages on which the service describes itself, `/docs`, `/docs/oauth2-redirect`, `/redoc`
and `/openapi.json`, are left out: they are looked up here like paths that do not exist, and
nothing that is said of routes is meant of them.
-/

namespace Gatekeeper

namespace Http

inductive Route where
  | register
  | login
  | logout
  | secret (user : String)
deriving DecidableEq, Repr

namespace Route

def method : Route → String
  | register | login | logout => "POST"
  | secret _ => "GET"

/-- What stands before the user in the path of a secret. -/
def secretPrefix : List Char := "/secret/".toList

def dropLineFeed (path : List Char) : List Char :=
  if path.getLast? = some '\n' then path.dropLast else path

def ofPath? (path : List Char) : Option Route :=
  if secretPrefix.isPrefixOf path then
    let user := path.drop secretPrefix.length
    if user ≠ [] ∧ '/' ∉ user then some (secret (String.ofList user)) else none
  else
    let path := String.ofList (dropLineFeed path)
    if path = "/register" then some register
    else if path = "/login" then some login
    else if path = "/logout" then some logout
    else none

def dropSlashes (path : List Char) : List Char := (path.reverse.dropWhile (· = '/')).reverse

/-- The route of a request, or the response if there is none. -/
def find (method path : String) : Except Response Route :=
  let cs := path.toList
  match ofPath? cs with
  | some route =>
      if method = route.method then .ok route
      else .error (Response.methodNotAllowed route.method)
  | none =>
      if cs.getLast? = some '/' ∧ (ofPath? (dropSlashes cs)).isSome then
        .error Response.redirected
      else
        .error Response.notFound

end Route

end Http

end Gatekeeper
