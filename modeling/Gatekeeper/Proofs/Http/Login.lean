import Gatekeeper.Proofs.Http.Authorization
import Gatekeeper.Proofs.Http.Refinement
import Gatekeeper.Proofs.Store.Permanence

/-!
# Who can log in over HTTP

A registration takes any text from its form, but a header is read only if what it
holds is ASCII.  So a user who was registered can log in with the header of the
identifier and the password exactly if both are ASCII, whatever requests come in
between.  Everybody else is told to authenticate.
-/

namespace Gatekeeper

open Store

namespace Http

variable {s : Store} {r : Request} {user password : String}

/-! ## Requests one after the other -/

def afterAll (s : Store) (requests : List Request) : Store :=
  requests.foldl (fun s r => (serve s r).store) s

/-- What every call keeps is kept by requests. -/
theorem afterAll_induction (Invariant : Store → Prop)
    (step : ∀ s call, Invariant s → Invariant (s.acted (.call call))) (initial : Invariant s)
    (requests : List Request) : Invariant (afterAll s requests) := by
  induction requests generalizing s with
  | nil => exact initial
  | cons r rest ih =>
      have first : Invariant (serve s r).store := by
        cases read_ok : read r with
        | error reply =>
            rw [serve_of_error read_ok]
            exact initial
        | ok demand =>
            rw [serve_of_ok read_ok]
            exact step s demand.call initial
      exact ih first

/-! ## Requests that are sent -/

def loginWith (header : String) : Request :=
  { method := "POST", path := "/login", headers := [("authorization", header)] }

theorem header?_loginWith (header : String) :
    (loginWith header).header? "authorization" = some header := by
  simp [loginWith, Request.header?]

theorem find_loginWith (header : String) :
    Route.find (loginWith header).method (loginWith header).path = .ok .login :=
  @Route.find_of_ofPath? "/login" .login (by decide +kernel)

def umlautForm : List UInt8 :=
  Codec.Utf8.encodeString "\x7b\"user_id\": \"ü\", \"password\": \"pw\"\x7d"

theorem carries_of_toOption {request : RegisterRequest}
    (carried : (readRegistration r).toOption = some request) :
    r.Carries request.user request.password := by
  refine readRegistration_eq_ok_iff.mp ?_
  cases read_ok : readRegistration r with
  | error reply => simp [read_ok, Except.toOption] at carried
  | ok other => simpa [read_ok, Except.toOption] using carried

/-! ## Registrations -/

theorem read_register (routed : Route.find r.method r.path = .ok .register)
    (carried : r.Carries user password) : read r = .ok (.register ⟨user, password⟩) := by
  rw [read, routed]
  dsimp only
  rw [(@readRegistration_eq_ok_iff r ⟨user, password⟩).mpr carried]
  rfl

theorem created_of_returned (routed : Route.find r.method r.path = .ok .register)
    (carried : r.Carries user password)
    (returned : (s.act (.call (.register user ⟨password⟩))).result = .ok .done) :
    (serve s r).reply.response.status = 201 := by
  rw [serve_of_ok (read_register routed carried)]
  simp only [Demand.call, returned]
  rfl

/-- A registration is answered with its own status only if it returned. -/
theorem returned_of_created {request : RegisterRequest} {result : Except Failure Value}
    (created : (Reply.ofResult (.register request) result).response.status = 201) :
    ∃ value, result = .ok value := by
  cases result with
  | ok value => exact ⟨value, rfl⟩
  | error failure =>
      cases failure with
      | refused refusal => cases refusal <;> cases created
      | _ => cases created

/-- What a registration that was answered with its own status has stored. -/
theorem stored_of_created (sound : s.backend.defects = .none)
    (routed : Route.find r.method r.path = .ok .register) (carried : r.Carries user password)
    (created : (serve s r).reply.response.status = 201) :
    (∃ call, (serve s r).store = s.acted (.call call)) ∧ UserId.WellFormed user ∧
      ∃ hash, (⟨password⟩ : Password).hash s.nextSalt s.config.hashIterations = .ok hash ∧
        (serve s r).store.backend.memory.users.get? user = some (.hashed hash) := by
  rw [serve_of_ok (read_register routed carried)] at created ⊢
  obtain ⟨value, returned⟩ := returned_of_created created
  obtain ⟨memory, -, rfl, -⟩ := leaves_of_returned sound returned
  obtain ⟨formed, hash, hashed, entered⟩ := backend_of_register sound returned
  refine ⟨⟨.register user ⟨password⟩, rfl⟩, formed, hash, hashed, ?_⟩
  show (s.acted (.call (.register user ⟨password⟩))).backend.memory.users.get? user = _
  rw [entered, Directory.get?_insert, if_pos rfl]

/-! ## Logins -/

theorem read_login (entering : Route.find r.method r.path = .ok .login) :
    read r =
      match Authorization.credentials? r with
      | some credentials => .ok (.login credentials)
      | none => .error ⟨.unauthorized, none⟩ := by
  rw [read, entering]
  rfl

/-- Who is stored with the hash of a password can log in with it where nothing is armed. -/
theorem result_login_of_stored (sound : s.backend.defects = .none) (unarmed : s.Unarmed)
    (formed : UserId.WellFormed user) {password : Password} {salt : List UInt8}
    {iterations : Nat} {hash : PasswordHash} (hashed : password.hash salt iterations = .ok hash)
    (stored : s.backend.memory.users.get? user = some (.hashed hash)) :
    (s.act (.call (.login (.pair ⟨user, password⟩)))).result = .ok (.flag true) ∧
      (s.acted (.call (.login (.pair ⟨user, password⟩)))).IsLoggedIn user := by
  obtain ⟨⟨positive, bound⟩, rfl⟩ := Password.eq_compose_of_hash_eq hashed
  have read : (Presented.pair ⟨user, password⟩).credentials = .ok ⟨user, password⟩ := by
    rw [Presented.credentials, Credentials.check, UserId.check_of_wellFormed formed]
  have matching := Stored.matching_compose password positive bound salt
    (password.key salt iterations)
  rw [decide_eq_true rfl] at matching
  have granted := result_login sound read (unarmed _) stored matching
  rw [if_neg (by simp [unarmed .addSession])] at granted
  exact ⟨granted, (of_login_granted sound read granted).2⟩

/-- Who is stored with the hash of a password can log in with the header of the two if both are
ASCII; otherwise the header is not read. -/
theorem serve_login_of_stored (sound : s.backend.defects = .none) (unarmed : s.Unarmed)
    {salt : List UInt8} {iterations : Nat} {hash : PasswordHash}
    (hashed : (⟨password⟩ : Password).hash salt iterations = .ok hash)
    (stored : s.backend.memory.users.get? user = some (.hashed hash)) {header : String}
    (made : Credentials.basicHeader user password = .ok header)
    (entering : Route.find r.method r.path = .ok .login)
    (authorized : r.header? "authorization" = some header) :
    (Text.IsAscii user.toList ∧ Text.IsAscii password.toList →
      (serve s r).reply.response = .ok 200 (Payload.loginResponse user true).toJson ∧
        (serve s r).store.IsLoggedIn user) ∧
    (¬(Text.IsAscii user.toList ∧ Text.IsAscii password.toList) →
      (serve s r).reply.response = .unauthorized ∧ (serve s r).call = none ∧
        (serve s r).store = s) := by
  have presented : Authorization.credentials? r =
      if Text.IsAscii user.toList ∧ Text.IsAscii password.toList then some ⟨user, ⟨password⟩⟩
      else none := by
    rw [Authorization.credentials?, authorized]
    exact Authorization.ofHeader?_basicHeader made
  constructor
  · intro small
    rw [if_pos small] at presented
    have read_ok : read r = .ok (.login ⟨user, ⟨password⟩⟩) := by
      rw [read_login entering, presented]
    have formed := Credentials.wellFormed_of_basicHeader made
    obtain ⟨granted, live⟩ := result_login_of_stored sound unarmed formed hashed stored
    rw [serve_of_ok read_ok]
    simp only [Demand.call, granted]
    exact ⟨rfl, live⟩
  · intro other
    rw [if_neg other] at presented
    have answered : read r = .error ⟨.unauthorized, none⟩ := by
      rw [read_login entering, presented]
    rw [serve_of_error answered]
    exact ⟨rfl, rfl, rfl⟩

/-- Where nothing is armed, a user whose registration is answered with success can log in with the
header of the identifier and the password, whatever requests come in between, if both are ASCII.
Otherwise the header is not read, and the login changes nothing. -/
theorem login_after_created (sound : s.backend.defects = .none) (unarmed : s.Unarmed)
    (registering : Route.find r.method r.path = .ok .register) (carried : r.Carries user password)
    (created : (serve s r).reply.response.status = 201) :
    ∃ header, Credentials.basicHeader user password = .ok header ∧
      ∀ (between : List Request) (login : Request),
        Route.find login.method login.path = .ok .login →
        login.header? "authorization" = some header →
          let t := afterAll (serve s r).store between
          let served := serve t login
          (Text.IsAscii user.toList ∧ Text.IsAscii password.toList →
            served.reply.response = .ok 200 (Payload.loginResponse user true).toJson ∧
              served.store.IsLoggedIn user) ∧
          (¬(Text.IsAscii user.toList ∧ Text.IsAscii password.toList) →
            served.reply.response = .unauthorized ∧ served.call = none ∧ served.store = t) := by
  obtain ⟨⟨call, registered⟩, formed, hash, hashed, found⟩ :=
    stored_of_created sound registering carried created
  have made := Credentials.basicHeader_of_wellFormed formed password
  refine ⟨_, made, ?_⟩
  intro between login entering authorized
  have kept := afterAll_induction
    (fun t : Store => t.backend.defects = .none ∧ t.Unarmed ∧
      t.backend.memory.users.get? user = some (.hashed hash)) ?_ (s := (serve s r).store) ?_ between
  · exact serve_login_of_stored kept.1 kept.2.1 hashed kept.2.2 made entering authorized
  · rintro t call ⟨sound, unarmed, found⟩
    exact ⟨act_defects sound _, unarmed.acted_call sound call, get?_acted sound found _⟩
  · rw [registered] at found ⊢
    exact ⟨act_defects sound _, unarmed.acted_call sound call, found⟩

/-- A user logs in after having tried to register once more; another one cannot. -/
theorem login_after_created_again :
    (∃ header, Credentials.basicHeader "Bob" "pw" = .ok header ∧
      let s := afterAll (blank .fast .counter []) [registration bobForm, registration bobForm]
      (serve s (loginWith header)).reply.response =
        .ok 200 (Payload.loginResponse "Bob" true).toJson) ∧
    ∃ header, Credentials.basicHeader "ü" "pw" = .ok header ∧
      let s := afterAll (blank .fast .counter []) [registration umlautForm]
      (serve s (loginWith header)).reply.response = .unauthorized := by
  have bob := @carries_of_toOption (registration bobForm) ⟨"Bob", "pw"⟩ (by decide +kernel)
  have other := @carries_of_toOption (registration umlautForm) ⟨"ü", "pw"⟩ (by decide +kernel)
  constructor
  · obtain ⟨header, made, answered⟩ := @login_after_created (blank .fast .counter []) _ _ _ rfl
      (unarmed_of_unguarded rfl) (find_registration bobForm) bob (by decide +kernel)
    exact ⟨header, made, (answered [registration bobForm] _ (find_loginWith header)
      (header?_loginWith header)).1 (by decide +kernel) |>.1⟩
  · obtain ⟨header, made, answered⟩ := @login_after_created (blank .fast .counter []) _ _ _ rfl
      (unarmed_of_unguarded rfl) (find_registration umlautForm) other (by decide +kernel)
    exact ⟨header, made, (answered [] _ (find_loginWith header)
      (header?_loginWith header)).2 (by decide +kernel) |>.1⟩

/-- Not everybody who is registered can log in. -/
theorem registered_refused :
    ¬∀ (r : Request) (user password header : String),
      Route.find r.method r.path = .ok .register → r.Carries user password →
      (serve (blank .fast .counter []) r).reply.response.status = 201 →
      Credentials.basicHeader user password = .ok header →
      (serve (serve (blank .fast .counter []) r).store
        (loginWith header)).reply.response.status = 200 := by
  intro answered
  have carried := @carries_of_toOption (registration umlautForm) ⟨"ü", "pw"⟩ (by decide +kernel)
  have made := Credentials.basicHeader_of_wellFormed (show UserId.WellFormed "ü" by decide) "pw"
  have status := answered (registration umlautForm) "ü" "pw" _ (find_registration umlautForm)
    carried (by decide +kernel) made
  have given : (serve (serve (blank .fast .counter []) (registration umlautForm)).store
      (loginWith (basicScheme ++ String.ofList
        (Credentials.payload "ü" "pw")))).reply.response.status = 401 := by
    decide +kernel
  rw [given] at status
  cases status

end Http

end Gatekeeper
