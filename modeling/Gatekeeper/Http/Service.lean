import Gatekeeper.Http.Authorization
import Gatekeeper.Http.Payload
import Gatekeeper.Http.Route
import Gatekeeper.Json.Encoding
import Gatekeeper.Json.Showable
import Gatekeeper.Store.Basic

/-!
# The service

A request is read first.  If it asks for something it becomes one call of the
store, and what comes of the call becomes the response; otherwise the response
is known without any call.  A refused body is shown to its sender, so a body that
cannot be shown is a breakdown of the service.
-/

namespace Gatekeeper

namespace Http

inductive Demand where
  | register (request : RegisterRequest)
  | login (credentials : Credentials)
  | logout (user : String)
  | secret (user : String)
deriving DecidableEq

/-- A response, and the failure behind a breakdown of the service. -/
structure Reply where
  response : Response
  raised : Option Failure := none
deriving Repr

structure Served where
  reply : Reply
  /-- The call that was made, if any. -/
  call : Option Call
  store : Store
  events : List Event

namespace Demand

def call : Demand → Call
  | register request => .register request.user ⟨request.password⟩
  | login credentials => .login (.pair credentials)
  | logout user => .logout user
  | secret user => .accessSecret user

/-- The response to a demand whose call returned. -/
def respond (demand : Demand) (value : Value) : Response :=
  match demand, value with
  | register request, _ => .ok 201 (Payload.registerResponse request.user).toJson
  | login credentials, value =>
      .ok 200 (Payload.loginResponse credentials.user (value = .flag true)).toJson
  | logout _, _ => .ok 200 (Payload.statusResponse Payload.statusOk).toJson
  | secret _, .secret s => .ok 200 (Payload.secret s).toJson
  | secret _, _ => .internalError

end Demand

namespace Reply

def broken (failure : Failure) : Reply := ⟨.internalError, some failure⟩

def invalidBody (complaints : List Form.Complaint) : Reply :=
  { response := {
      status := 422
      body := .json (.object [("detail",
        .array (complaints.map fun complaint => (complaint.within "body").toJson))]) } }

/-- A body that was read as a form but does not fit.  What each complaint is about is shown. -/
def invalidForm (room : Nat) (form : Json) (complaints : List Form.Complaint) : Reply :=
  let met := complaints.flatMap fun complaint => (complaint.subject form).obstacles room
  match Json.Obstacle.first? met with
  | none => invalidBody complaints
  | some obstacle => broken (.unshowable obstacle)

/-- The reply to a demand whose call was refused. -/
def ofRefusal (refusal : Refusal) : Reply :=
  match refusal with
  | .alreadyRegistered _ => ⟨.problem 409 refusal.message, none⟩
  | .malformed _ => ⟨.problem 400 refusal.message, none⟩
  | .notAuthenticated _ => ⟨.problem 403 "Not allowed", none⟩
  | .storage _ _ => ⟨.problem 503 refusal.message, none⟩
  | .general _ => broken (.refused refusal)

def ofResult (demand : Demand) : Except Failure Value → Reply
  | .ok value => ⟨demand.respond value, none⟩
  | .error (.refused refusal) => ofRefusal refusal
  | .error failure => broken failure

end Reply

def isJsonType (contentType : String) : Bool :=
  let kind := (Text.trim Text.isBlank (contentType.toList.takeWhile (· ≠ ';'))).map Char.toLower
  match Text.splitAll '/' kind with
  | [main, sub] =>
      main = "application".toList && (sub = "json".toList || "+json".toList.isSuffixOf sub)
  | _ => false

def aboutBody (cause : Form.Cause) : Reply := .invalidBody [⟨[], cause⟩]

/-- The registration that a request with a body of JSON asks for. -/
def readForm (r : Request) : Except Reply RegisterRequest :=
  match Json.ofBytes r.readingRoom r.body with
  | .ok form =>
      (RegisterRequest.ofForm .notObject form).mapError (Reply.invalidForm r.showingRoom form)
  | .error (.unreadable .malformed) => .error (aboutBody .invalidJson)
  | .error _ => .error ⟨.problem 400 "There was an error parsing the body", none⟩

/-- The reply to a body of any other type: it is no object, whatever it says. -/
def refuseText (body : List UInt8) : Reply :=
  match Codec.Utf8.decode body with
  | .ok _ => aboutBody .notObject
  | .error fault => .broken (.unshowableBytes fault)

def readRegistration (r : Request) : Except Reply RegisterRequest :=
  if r.body = [] then .error (aboutBody .missing)
  else if (r.header? "content-type").any isJsonType then readForm r
  else .error (refuseText r.body)

/-- What a request asks for, or the reply to one that asks for nothing. -/
def read (r : Request) : Except Reply Demand :=
  match Route.find r.method r.path with
  | .error response => .error ⟨response, none⟩
  | .ok .register => (readRegistration r).map .register
  | .ok .login => authorized Demand.login
  | .ok .logout => authorized fun credentials => .logout credentials.user
  | .ok (.secret user) => .ok (.secret user)
where
  /-- A demand of a caller who says who it is. -/
  authorized (demand : Credentials → Demand) : Except Reply Demand :=
    match Authorization.credentials? r with
    | some credentials => .ok (demand credentials)
    | none => .error ⟨.unauthorized, none⟩

def serve (s : Store) (r : Request) : Served :=
  match read r with
  | .error reply => ⟨reply, none, s, []⟩
  | .ok demand =>
      let ended := s.perform demand.call
      ⟨.ofResult demand ended.result, some demand.call, ended.store, ended.events⟩

end Http

end Gatekeeper
