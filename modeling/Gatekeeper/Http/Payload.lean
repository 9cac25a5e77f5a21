import Gatekeeper.Form.Field
import Gatekeeper.Secret

/-!
# Payloads

The objects that cross the boundary of the service.  No response shows a
password.
-/

namespace Gatekeeper

namespace Http

structure RegisterRequest where
  user : String
  password : String
deriving DecidableEq, Repr

namespace RegisterRequest

def ofFields (field? : String → Option Json) : Checked RegisterRequest :=
  match Form.field field? "user_id" none Form.nonemptyText,
    Form.field field? "password" none Form.nonemptyText with
  | .ok user, .ok password => .ok ⟨user, password⟩
  | user, password => .error (user.complaints ++ password.complaints)

/-- Check a form; anything but an object is refused with the given complaint. -/
def ofForm (refusal : Form.Cause) : Json → Checked RegisterRequest :=
  Form.ofObject refusal ofFields

def describe (r : RegisterRequest) : String :=
  "RegisterRequest(user_id=" ++ Text.quote r.user ++ ", password=<redacted>)"

def text (r : RegisterRequest) : String :=
  "user_id=" ++ Text.quote r.user ++ " password=" ++ Text.quote r.password

end RegisterRequest

inductive PayloadKind where
  | secret
  | registerRequest
  | registerResponse
  | loginResponse
  | statusResponse
deriving DecidableEq, Repr

inductive Payload where
  | secret (secret : Secret)
  | registerRequest (request : RegisterRequest)
  | registerResponse (user : String)
  | loginResponse (user : String) (authenticated : Bool)
  | statusResponse (status : String)
deriving DecidableEq, Repr

namespace PayloadKind

def all : List PayloadKind :=
  [secret, registerRequest, registerResponse, loginResponse, statusResponse]

def name : PayloadKind → String
  | secret => "Secret"
  | registerRequest => "RegisterRequest"
  | registerResponse => "RegisterResponse"
  | loginResponse => "LoginResponse"
  | statusResponse => "StatusResponse"

def ofName? (s : String) : Option PayloadKind := all.find? (·.name = s)

end PayloadKind

namespace Payload

def statusOk : String := "ok"

def ofFields (field? : String → Option Json) : PayloadKind → Checked Payload
  | .secret =>
      match Form.field field? "user_id" none Form.text,
        Form.field field? "message" none Form.text with
      | .ok user, .ok message => .ok (secret ⟨user, message⟩)
      | user, message => .error (user.complaints ++ message.complaints)
  | .registerRequest => (RegisterRequest.ofFields field?).map registerRequest
  | .registerResponse => (Form.field field? "user_id" none Form.text).map registerResponse
  | .loginResponse =>
      match Form.field field? "user_id" none Form.text,
        Form.field field? "authenticated" none Form.boolean with
      | .ok user, .ok authenticated => .ok (loginResponse user authenticated)
      | user, authenticated => .error (user.complaints ++ authenticated.complaints)
  | .statusResponse =>
      (Form.field field? "status" (some statusOk) Form.text).map statusResponse

def ofForm (kind : PayloadKind) : Json → Checked Payload :=
  Form.ofObject (.notRecord kind.name) fun field? => ofFields field? kind

def toJson : Payload → Json
  | secret s => .object [("user_id", .text s.user), ("message", .text s.message)]
  | registerRequest r => .object [("user_id", .text r.user), ("password", .text r.password)]
  | registerResponse user => .object [("user_id", .text user)]
  | loginResponse user authenticated =>
      .object [("user_id", .text user), ("authenticated", .bool authenticated)]
  | statusResponse status => .object [("status", .text status)]

end Payload

end Http

end Gatekeeper
