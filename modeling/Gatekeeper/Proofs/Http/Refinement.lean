import Gatekeeper.Http.Host
import Gatekeeper.Proofs.Http.Status
import Gatekeeper.Proofs.Store.Regular
import Gatekeeper.Proofs.Store.Unarmed
import Gatekeeper.Proofs.Template.Render

/-!
# The service refines the store

An app over a store does nothing to the store but the calls that its requests ask for.
A request makes the one call that it asks for, and the status of the response tells
how that call ended.  A request that asks for nothing makes no call.  Whatever is
answered with a status of failure, or with a denied login, changes nothing.
-/

namespace Gatekeeper

open Store

namespace Http

variable {s : Store} {r : Request} {route : Route}

/-! ## Requests -/

structure Refines (s : Store) (r : Request) (route : Route) (served : Served) : Prop where
  asked : ∀ call, Asks r route call → served.call = some call ∧
    served.store = s.acted (.call call) ∧ served.events = (s.act (.call call)).events ∧
    Tells route served.reply.response.status (s.act (.call call)).result
  unasked : (∀ call, ¬Asks r route call) → served.call = none ∧ served.store = s ∧
    served.events = [] ∧ RefusedWith r served.reply.response.status route
  unchanged : 400 ≤ served.reply.response.status ∨
      (∃ user, served.reply.response.body = .json (Payload.loginResponse user false).toJson) →
    served.store.backend = s.backend

theorem serve_of_ok {demand : Demand} (read_ok : read r = .ok demand) (s : Store) :
    serve s r =
      ⟨.ofResult demand (s.act (.call demand.call)).result, some demand.call,
        s.acted (.call demand.call), (s.act (.call demand.call)).events⟩ := by
  rw [serve, read_ok]
  rfl

theorem serve_of_error {reply : Reply} (answered : read r = .error reply) (s : Store) :
    serve s r = ⟨reply, none, s, []⟩ := by
  rw [serve, answered]

/-- A body that says that a login was denied is the response to such a login. -/
theorem of_denied_body {demand : Demand} {value : Value} {user : String}
    (denied : (demand.respond value).body = .json (Payload.loginResponse user false).toJson) :
    ∃ credentials, demand = .login credentials ∧ value ≠ .flag true := by
  cases demand with
  | register request => simp [Demand.respond, Response.ok, Payload.toJson] at denied
  | login credentials =>
      refine ⟨credentials, rfl, ?_⟩
      rintro rfl
      simp [Demand.respond, Response.ok, Payload.toJson] at denied
  | logout name => simp [Demand.respond, Response.ok, Payload.toJson] at denied
  | secret name =>
      cases value <;>
        simp [Demand.respond, Response.ok, Response.internalError, Payload.toJson] at denied

/-- A response of failure and a denied login leave everything as it was. -/
theorem backend_of_failure (sound : s.backend.defects = .none)
    (failed : 400 ≤ (serve s r).reply.response.status ∨ ∃ user,
      (serve s r).reply.response.body = .json (Payload.loginResponse user false).toJson) :
    (serve s r).store.backend = s.backend := by
  cases read_ok : read r with
  | error reply => rw [serve_of_error read_ok]
  | ok demand =>
      rw [serve_of_ok read_ok] at failed ⊢
      cases result : (s.act (.call demand.call)).result with
      | error failure => exact backend_of_error sound result
      | ok value =>
          have possible := canEndIn_result sound demand.call
          simp only [result, Reply.ofResult] at failed possible
          rcases failed with high | ⟨user, denied⟩
          · -- A call that returns is answered with a status below.
            have success := demand.route.status_lt
            rw [status_of_returned possible] at high
            omega
          · obtain ⟨credentials, rfl, other⟩ := of_denied_body denied
            obtain ⟨memory, left, changes⟩ := leaves_of_returned sound result
            rcases changes with ⟨-, kept⟩ | ⟨granted, -⟩
            · rw [left, kept]
            · exact absurd granted other

/-- A store whose calls all return or are refused serves a request by the call it asks for. -/
theorem refines_serve (sound : s.backend.defects = .none)
    (ends : ∀ call, HasOutcome (s.act (.call call)).result)
    (routed : Route.find r.method r.path = .ok route) : Refines s r route (serve s r) where
  asked := by
    intro call asked
    obtain ⟨demand, read_ok, rfl, rfl⟩ := read_of_asks routed asked
    rw [serve_of_ok read_ok]
    exact ⟨rfl, rfl, rfl, tells_of_hasOutcome (canEndIn_result sound _) (ends _)⟩
  unasked := by
    intro idle
    obtain ⟨reply, answered, refused⟩ := read_of_not_asks routed idle
    rw [serve_of_error answered]
    exact ⟨rfl, rfl, rfl, refused⟩
  unchanged := backend_of_failure sound

/-! ## Apps -/

/-- What happens to an app: a request comes in, or something is done to its store from outside,
such as arming a fail point. -/
inductive Incident where
  | request (r : Request)
  | act (action : Action)

def Incident.action? : Incident → Option Action
  | request r => (read r).toOption.map fun demand => .call demand.call
  | act action => some action

namespace Host

def serving (log : Log.Root) (s : Store) : Host := { stores := [s], log }

/-- An app over a given store can be made in every process. -/
theorem createApp_given (host : Host) (s : Store) (config? : Option Config)
    (valueOf? : String → Option String) :
    ∃ log, host.createApp (some s) config? valueOf? = .ok ⟨host.stores ++ [s], log⟩ := by
  cases config? with
  | none => exact ⟨_, rfl⟩
  | some config => exact ⟨_, rfl⟩

theorem createApp_serving (s : Store) (config? : Option Config)
    (valueOf? : String → Option String) :
    ∃ log, createApp {} (some s) config? valueOf? = .ok (serving log s) :=
  createApp_given {} s config? valueOf?

def befall (host : Host) : Incident → Except Failure Host
  | .request r =>
      if present : 0 < host.stores.length then (host.request ⟨0, present⟩ r).map Prod.snd
      else .error .notInitialized
  | .act action => host.store.map fun s => host.replaceStore (s.acted action)

theorem befall_serving (log : Log.Root) (s : Store) (incident : Incident) :
    (serving log s).befall incident = .ok (serving log (incident.action?.elim s s.acted)) := by
  cases incident with
  | act action => rfl
  | request r =>
      have answered :
          (serving log s).befall (.request r) = .ok (serving log (serve s r).store) := rfl
      rw [answered, Incident.action?]
      cases read_ok : read r with
      | error reply =>
          rw [serve_of_error read_ok]
          rfl
      | ok demand =>
          rw [serve_of_ok read_ok]
          rfl

/-- What happens to an app does nothing else to its store but what requests ask for. -/
theorem run_serving (log : Log.Root) (s : Store) (incidents : List Incident) :
    incidents.foldlM befall (serving log s) =
      .ok (serving log ((incidents.filterMap Incident.action?).foldl acted s)) := by
  induction incidents generalizing s with
  | nil => rfl
  | cons incident rest ih =>
      have first : (incident :: rest).foldlM befall (serving log s) =
          rest.foldlM befall (serving log (incident.action?.elim s s.acted)) := by
        rw [List.foldlM_cons, befall_serving]
        rfl
      rw [first, ih, List.filterMap_cons]
      cases incident.action? with
      | none => rfl
      | some action => rfl

end Host

/-- Whatever has happened to an app over a store, a request to one of its routes makes exactly the
call that it asks for, and its status tells how the call ended.  A request that asks for nothing
makes no call; a body that is given up before it is looked at is told from one that does not fit.
Responses of failure and denied logins change nothing. -/
theorem requests_refine_calls (config : Config) (salts : SaltSource)
    (guards : List (Roster FailPoint)) (config? : Option Config)
    (valueOf? : String → Option String) (incidents : List Incident) (r : Request) {route : Route}
    (bound : config.hashIterations ≤ Hash.Pbkdf2.maxIterations)
    (renders : ∀ user, ∃ message, Template.render config.secretTemplate user = .ok message)
    (routed : Route.find r.method r.path = .ok route) :
    let start := blank config salts guards
    let s := (incidents.filterMap Incident.action?).foldl acted start
    ∃ fresh host, Host.createApp {} (some start) config? valueOf? = .ok fresh ∧
      incidents.foldlM Host.befall fresh = .ok host ∧ host.stores = [s] ∧
      ∀ app, ∃ served, host.request app r = .ok (served, host.replaceStore served.store) ∧
        Refines s r route served := by
  intro start s
  obtain ⟨log, made⟩ := Host.createApp_serving start config? valueOf?
  refine ⟨_, _, made, Host.run_serving log start incidents, rfl, fun app => ⟨serve s r, rfl, ?_⟩⟩
  have used : s.Used config salts := used_run guards _
  have verifiable : s.backend.memory.Verifiable := (regular_run salts guards _).verifiable
  refine refines_serve used.defects (fun call => ?_) routed
  refine hasOutcome_call used.defects ?_ verifiable fun user _ => ?_
  · rw [used.config_eq]
    exact bound
  · rw [used.config_eq]
    exact renders user

def registration (body : List UInt8) : Request :=
  { method := "POST", path := "/register", headers := [("content-type", "application/json")], body }

theorem find_registration (body : List UInt8) :
    Route.find (registration body).method (registration body).path = .ok .register :=
  @Route.find_of_ofPath? "/register" .register (by decide +kernel)

def bobForm : List UInt8 :=
  Codec.Utf8.encodeString "\x7b\"user_id\": \"Bob\", \"password\": \"pw\"\x7d"

def bobSecret : Request := { method := "GET", path := "/secret/Bob" }

/-- A user registers, and then looking for sessions fails. -/
def disturbance : List Incident := [.request (registration bobForm), .act (.arm "db.has_session")]

theorem requests_refine_calls_disturbance :
    ∃ fresh host,
      Host.createApp {} (some (blank .fast .counter [.empty])) none (fun _ => none) = .ok fresh ∧
      disturbance.foldlM Host.befall fresh = .ok host ∧
      (∃ s, host.stores = [s] ∧ s.backend.memory.users.keys = ["Bob"]) ∧
      ∀ app, ∃ served, host.request app bobSecret = .ok (served, host.replaceStore served.store) ∧
        served.call = some (.accessSecret "Bob") ∧ served.reply.response.status = 503 := by
  have routed : Route.find "GET" "/secret/Bob" = .ok (.secret "Bob") :=
    @Route.find_of_ofPath? "/secret/Bob" (.secret "Bob") (by decide +kernel)
  have reached : ((disturbance.filterMap Incident.action?).foldl acted
        (blank .fast .counter [.empty])).backend.memory.users.keys = ["Bob"] ∧
      ((disturbance.filterMap Incident.action?).foldl acted
        (blank .fast .counter [.empty])).backend.isArmed .hasSession = true := by
    decide +kernel
  have used := @used_run .fast .counter [.empty] (disturbance.filterMap Incident.action?)
  obtain ⟨fresh, host, made, run, stores, answers⟩ :=
    @requests_refine_calls .fast .counter [.empty] none (fun _ => none) disturbance bobSecret
      (.secret "Bob") (by decide) (fun user => ⟨_, Template.render_standard user⟩) routed
  -- Otherwise the store that is reached would be computed.
  generalize (disturbance.filterMap Incident.action?).foldl acted
    (blank .fast .counter [.empty]) = s at reached used stores answers
  obtain ⟨message, rendered⟩ :
      ∃ message, Template.render s.config.secretTemplate "Bob" = .ok message := by
    rw [used.config_eq]
    exact ⟨_, Template.render_standard "Bob"⟩
  have failed := result_accessSecret used.defects (by decide) rendered
  rw [reached.2, if_pos rfl] at failed
  refine ⟨fresh, host, made, run, ⟨s, stores, reached.1⟩, fun app => ?_⟩
  obtain ⟨served, answered, refines⟩ := answers app
  obtain ⟨call, -, -, tells⟩ := refines.asked _ (.secret "Bob")
  exact ⟨served, answered, call, (tells.refused .storage).mpr ⟨_, failed, rfl⟩⟩

/-- Half of a surrogate pair is no part of an identifier: no call is made, and what is refused
cannot be shown. -/
example :
    let served := serve (blank .standard .counter []) (registration (Codec.Utf8.encodeString
      "\x7b\"user_id\": \"\\ud800\", \"password\": \"pw\"\x7d"))
    served.call = none ∧ served.reply.raised = some (.unshowable .unpaired) := by
  decide +kernel

/-- A body that is no text has the status of malformed credentials, although no call is made. -/
theorem unreadable_body_refused :
    ¬∀ (r : Request), Route.find r.method r.path = .ok .register →
      (∀ call, ¬Asks r .register call) →
      (serve (blank .standard .counter []) r).reply.response.status = 422 := by
  intro invalid
  have idle (call : Call) : ¬Asks (registration [0xff]) .register call := by
    rintro ⟨-, -, form, read, -⟩
    have unread : Json.ofBytes 960 [0xff] = .error .noText := rfl
    cases unread.symm.trans read
  have status := invalid (registration [0xff]) (find_registration [0xff]) idle
  have given : (serve (blank .standard .counter []) (registration [0xff])).reply.response.status =
      400 := by
    decide +kernel
  rw [given] at status
  cases status

end Http

end Gatekeeper
