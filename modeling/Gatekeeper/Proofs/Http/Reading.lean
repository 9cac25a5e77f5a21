import Gatekeeper.Http.Service

/-!
# What requests ask for

A request to a route asks for one call, unless its body or its header does not say
which.  A body has to be a form in JSON with the two fields of a registration.  A
request that asks for nothing is answered without a call.
-/

namespace Gatekeeper

/-! ## Forms -/

namespace Form

theorem nonemptyText_eq_ok_iff {json : Json} {s : String} :
    nonemptyText json = .ok s ↔ json = .text s ∧ s ≠ "" := by
  cases json with
  | text t =>
      simp only [nonemptyText, String.isEmpty_iff, Json.text.injEq]
      by_cases empty : t = ""
      · rw [if_pos empty]
        exact ⟨nofun, fun same => absurd (same.1.symm.trans empty) same.2⟩
      · rw [if_neg empty, Except.ok.injEq]
        exact ⟨fun same => ⟨same, same ▸ empty⟩, And.left⟩
  | _ => simp [nonemptyText]

theorem field_eq_ok_iff {α : Type} {value? : String → Option Json} {name : String}
    {reader : Json → Except Cause α} {value : α} :
    field value? name none reader = .ok value ↔
      ∃ json, value? name = some json ∧ reader json = .ok value := by
  cases found : value? name with
  | none => simp [field, found]
  | some json => cases read : reader json <;> simp [field, found, read]

theorem field_nonemptyText_eq_ok_iff {value? : String → Option Json} {name s : String} :
    field value? name none nonemptyText = .ok s ↔ value? name = some (.text s) ∧ s ≠ "" := by
  rw [field_eq_ok_iff]
  constructor
  · rintro ⟨json, found, read⟩
    obtain ⟨rfl, nonempty⟩ := nonemptyText_eq_ok_iff.mp read
    exact ⟨found, nonempty⟩
  · rintro ⟨found, nonempty⟩
    exact ⟨.text s, found, nonemptyText_eq_ok_iff.mpr ⟨rfl, nonempty⟩⟩

end Form

namespace Http

namespace RegisterRequest

variable {request : RegisterRequest}

theorem ofFields_eq_ok_iff {value? : String → Option Json} :
    ofFields value? = .ok request ↔
      (value? "user_id" = some (.text request.user) ∧ request.user ≠ "") ∧
        value? "password" = some (.text request.password) ∧ request.password ≠ "" := by
  obtain ⟨user, password⟩ := request
  rw [← Form.field_nonemptyText_eq_ok_iff, ← Form.field_nonemptyText_eq_ok_iff, ofFields]
  cases Form.field value? "user_id" none Form.nonemptyText <;>
    cases Form.field value? "password" none Form.nonemptyText <;> simp

/-- The fields of a registration are two texts that are not empty. -/
theorem ofForm_eq_ok_iff {form : Json} :
    ofForm .notObject form = .ok request ↔
      (form.field? "user_id" = some (.text request.user) ∧ request.user ≠ "") ∧
        form.field? "password" = some (.text request.password) ∧ request.password ≠ "" := by
  cases form with
  | object fields => exact ofFields_eq_ok_iff
  | unpairedObject fields others => exact ofFields_eq_ok_iff
  | _ => simp [ofForm, Form.ofObject, Json.field?]

end RegisterRequest

/-! ## Bodies -/

namespace Request

def SendsJson (r : Request) : Prop := (r.header? "content-type").any isJsonType = true

instance (r : Request) : Decidable r.SendsJson := inferInstanceAs (Decidable (_ = true))

/-- The body is a form in which an identifier and a password are filled in. -/
def Carries (r : Request) (user password : String) : Prop :=
  r.body ≠ [] ∧ r.SendsJson ∧ ∃ form, Json.ofBytes r.readingRoom r.body = .ok form ∧
    (form.field? "user_id" = some (.text user) ∧ user ≠ "") ∧
      form.field? "password" = some (.text password) ∧ password ≠ ""

/-- The body is given up before it is looked at as a form: its bytes are no text, or what they
say goes beyond what the reader takes on. -/
def Unreadable (r : Request) : Prop :=
  r.body ≠ [] ∧ r.SendsJson ∧ (Json.ofBytes r.readingRoom r.body = .error .noText ∨
    Json.ofBytes r.readingRoom r.body = .error (.unreadable .tooManyDigits) ∨
    Json.ofBytes r.readingRoom r.body = .error (.unreadable .tooDeep))

/-- The body cannot be shown when it is refused: what a complaint is about is nested too deeply,
or has a number that is not finite or half of a surrogate pair by itself in it, or else the body
is not sent as JSON and its bytes are no text. -/
def Unshowable (r : Request) : Prop :=
  r.body ≠ [] ∧
    if r.SendsJson then
      ∃ form complaints, Json.ofBytes r.readingRoom r.body = .ok form ∧
        RegisterRequest.ofForm .notObject form = .error complaints ∧
        ∃ complaint ∈ complaints, (complaint.subject form).isShowable r.showingRoom = false
    else ∃ fault, Codec.Utf8.decode r.body = .error fault

end Request

variable {r : Request}

theorem readRegistration_of_json (filled : r.body ≠ []) (json : r.SendsJson) :
    readRegistration r = readForm r := by
  rw [readRegistration, if_neg filled, if_pos (by exact json)]

theorem readRegistration_of_other (filled : r.body ≠ []) (other : ¬r.SendsJson) :
    readRegistration r = .error (refuseText r.body) := by
  rw [readRegistration, if_neg filled, if_neg (by exact other)]

theorem readForm_of_ok {form : Json} (read : Json.ofBytes r.readingRoom r.body = .ok form) :
    readForm r =
      (RegisterRequest.ofForm .notObject form).mapError (Reply.invalidForm r.showingRoom form) := by
  rw [readForm, read]

theorem exists_readForm_of_error {fault : Json.BytesFault}
    (unread : Json.ofBytes r.readingRoom r.body = .error fault) :
    ∃ reply, readForm r = .error reply := by
  rw [readForm, unread]
  cases fault with
  | noText => exact ⟨_, rfl⟩
  | unreadable fault => cases fault <;> exact ⟨_, rfl⟩

theorem mapError_eq_ok_iff {ε δ α : Type} {checked : Except ε α} {f : ε → δ} {value : α} :
    checked.mapError f = .ok value ↔ checked = .ok value := by
  cases checked with
  | ok other =>
      show (Except.ok other : Except δ α) = .ok value ↔ _
      rw [Except.ok.injEq, Except.ok.injEq]
  | error fault => exact ⟨nofun, nofun⟩

/-- A registration is read exactly from a body that carries it. -/
theorem readRegistration_eq_ok_iff {request : RegisterRequest} :
    readRegistration r = .ok request ↔ r.Carries request.user request.password := by
  rw [Request.Carries]
  by_cases empty : r.body = []
  · rw [readRegistration, if_pos empty]
    exact ⟨nofun, fun carried => absurd empty carried.1⟩
  by_cases json : r.SendsJson
  · rw [readRegistration_of_json empty json]
    cases read : Json.ofBytes r.readingRoom r.body with
    | error fault =>
        obtain ⟨reply, refused⟩ := exists_readForm_of_error read
        rw [refused]
        refine ⟨nofun, ?_⟩
        rintro ⟨-, -, form, other, -⟩
        cases other
    | ok form =>
        rw [readForm_of_ok read, mapError_eq_ok_iff, RegisterRequest.ofForm_eq_ok_iff]
        constructor
        · exact fun filled => ⟨empty, json, form, rfl, filled⟩
        · rintro ⟨-, -, other, same, filled⟩
          cases same
          exact filled
  · rw [readRegistration_of_other empty json]
    exact ⟨nofun, fun carried => absurd carried.2.1 json⟩

theorem status_invalidForm {room : Nat} {form : Json} {complaints : List Form.Complaint}
    (shown : ∀ complaint ∈ complaints, (complaint.subject form).isShowable room = true) :
    (Reply.invalidForm room form complaints).response.status = 422 := by
  have unmet : complaints.flatMap (fun complaint => (complaint.subject form).obstacles room) = [] :=
    List.flatMap_eq_nil_iff.mpr fun complaint among => List.isEmpty_iff.mp (shown complaint among)
  rw [Reply.invalidForm, unmet]
  rfl

/-- What a body is refused with that is sent as JSON. -/
theorem status_of_readForm_error (filled : r.body ≠ []) (json : r.SendsJson) {reply : Reply}
    (refused : readForm r = .error reply) :
    (r.Unreadable → reply.response.status = 400) ∧
      (¬r.Unreadable → ¬r.Unshowable → reply.response.status = 422) := by
  cases read : Json.ofBytes r.readingRoom r.body with
  | error fault =>
      rw [readForm, read] at refused
      cases fault with
      | noText =>
          cases refused
          exact ⟨fun _ => rfl, fun readable => absurd ⟨filled, json, .inl read⟩ readable⟩
      | unreadable fault =>
          cases fault with
          | malformed =>
              cases refused
              refine ⟨fun unreadable => ?_, fun _ _ => rfl⟩
              have past := unreadable.2.2
              simp [read] at past
          | tooManyDigits =>
              cases refused
              have past : r.Unreadable := ⟨filled, json, .inr (.inl read)⟩
              exact ⟨fun _ => rfl, fun readable => absurd past readable⟩
          | tooDeep =>
              cases refused
              have past : r.Unreadable := ⟨filled, json, .inr (.inr read)⟩
              exact ⟨fun _ => rfl, fun readable => absurd past readable⟩
  | ok form =>
      rw [readForm_of_ok read] at refused
      cases checked : RegisterRequest.ofForm .notObject form with
      | ok request =>
          rw [checked] at refused
          cases refused
      | error complaints =>
          rw [checked] at refused
          cases refused
          refine ⟨fun unreadable => ?_, fun _ showable => status_invalidForm ?_⟩
          · have past := unreadable.2.2
            simp [read] at past
          · intro complaint among
            cases shown : (complaint.subject form).isShowable r.showingRoom with
            | true => rfl
            | false =>
                refine absurd ⟨filled, ?_⟩ showable
                rw [if_pos json]
                exact ⟨form, complaints, read, checked, complaint, among, shown⟩

/-- What a body is refused with that carries no registration. -/
theorem status_of_readRegistration_error {reply : Reply}
    (refused : readRegistration r = .error reply) :
    (r.Unreadable → reply.response.status = 400) ∧
      (¬r.Unreadable → ¬r.Unshowable → reply.response.status = 422) := by
  by_cases empty : r.body = []
  · rw [readRegistration, if_pos empty, Except.error.injEq] at refused
    subst refused
    exact ⟨fun unreadable => absurd empty unreadable.1, fun _ _ => rfl⟩
  by_cases json : r.SendsJson
  · rw [readRegistration_of_json empty json] at refused
    exact status_of_readForm_error empty json refused
  · rw [readRegistration_of_other empty json, Except.error.injEq] at refused
    subst refused
    refine ⟨fun unreadable => absurd unreadable.2.1 json, fun _ showable => ?_⟩
    cases decoded : Codec.Utf8.decode r.body with
    | ok text =>
        rw [refuseText, decoded]
        rfl
    | error fault =>
        refine absurd ⟨empty, ?_⟩ showable
        rw [if_neg json]
        exact ⟨fault, decoded⟩

/-! ## Requests -/

theorem Route.find_of_ofPath? {path : String} {route : Route}
    (found : ofPath? path.toList = some route) : find route.method path = .ok route := by
  rw [find, found]
  exact if_pos rfl

inductive Asks (r : Request) : Route → Call → Prop where
  | register {user password : String} (carried : r.Carries user password) :
      Asks r .register (.register user ⟨password⟩)
  | login {credentials : Credentials}
      (authorized : Authorization.credentials? r = some credentials) :
      Asks r .login (.login (.pair credentials))
  | logout {credentials : Credentials}
      (authorized : Authorization.credentials? r = some credentials) :
      Asks r .logout (.logout credentials.user)
  | secret (user : String) : Asks r (.secret user) (.accessSecret user)

def RefusedWith (r : Request) (status : Nat) : Route → Prop
  | .register =>
      (r.Unreadable → status = 400) ∧ (¬r.Unreadable → ¬r.Unshowable → status = 422)
  | .login | .logout => status = 401
  | .secret _ => False

def Demand.route : Demand → Route
  | .register _ => .register
  | .login _ => .login
  | .logout _ => .logout
  | .secret user => .secret user

variable {route : Route}

/-- A request is read as what it asks for. -/
theorem read_of_asks (routed : Route.find r.method r.path = .ok route) {call : Call}
    (asked : Asks r route call) :
    ∃ demand, read r = .ok demand ∧ demand.route = route ∧ demand.call = call := by
  rw [read, routed]
  cases asked with
  | @register user password carried =>
      have read := (@readRegistration_eq_ok_iff r ⟨user, password⟩).mpr carried
      exact ⟨.register ⟨user, password⟩, by rw [read]; rfl, rfl, rfl⟩
  | @login credentials authorized =>
      exact ⟨.login credentials, by simp only [read.authorized, authorized], rfl, rfl⟩
  | @logout credentials authorized =>
      exact ⟨.logout credentials.user, by simp only [read.authorized, authorized], rfl, rfl⟩
  | secret user => exact ⟨.secret user, rfl, rfl, rfl⟩

/-- A request is read as something that it asks for, or else it is answered at once. -/
theorem read_cases (routed : Route.find r.method r.path = .ok route) :
    (∃ demand, read r = .ok demand ∧ Asks r route demand.call) ∨
      ∃ reply, read r = .error reply ∧ RefusedWith r reply.response.status route := by
  rw [read, routed]
  cases route with
  | register =>
      cases carried : readRegistration r with
      | ok request => exact .inl ⟨_, rfl, .register (readRegistration_eq_ok_iff.mp carried)⟩
      | error reply => exact .inr ⟨_, rfl, status_of_readRegistration_error carried⟩
  | login =>
      simp only [read.authorized]
      cases authorized : Authorization.credentials? r with
      | some credentials => exact .inl ⟨_, rfl, .login authorized⟩
      | none => exact .inr ⟨_, rfl, rfl⟩
  | logout =>
      simp only [read.authorized]
      cases authorized : Authorization.credentials? r with
      | some credentials => exact .inl ⟨_, rfl, .logout authorized⟩
      | none => exact .inr ⟨_, rfl, rfl⟩
  | secret user => exact .inl ⟨_, rfl, .secret user⟩

theorem read_of_not_asks (routed : Route.find r.method r.path = .ok route)
    (idle : ∀ call, ¬Asks r route call) :
    ∃ reply, read r = .error reply ∧ RefusedWith r reply.response.status route := by
  rcases read_cases routed with ⟨demand, -, asked⟩ | refused
  · exact absurd asked (idle demand.call)
  · exact refused

end Http

end Gatekeeper
