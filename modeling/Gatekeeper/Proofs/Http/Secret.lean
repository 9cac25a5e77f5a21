import Gatekeeper.Proofs.Codec.Percent
import Gatekeeper.Proofs.Http.Login
import Gatekeeper.Proofs.Store.Enrolment

/-!
# Whose secret can be read over HTTP

The path of a secret ends in the identifier, percent-encoded, and is decoded before a
route is looked for.  A route takes one segment for the identifier, and a registration
takes any identifier without a colon.  So a user with a session reads the secret
exactly if no slash stands in the identifier; the path of any other user is none that
the service knows.
-/

namespace Gatekeeper

open Store

namespace Http

namespace Route

variable {user : List Char}

/-! ## Paths of secrets -/

theorem ofPath?_secretPrefix (user : List Char) :
    ofPath? (secretPrefix ++ user) =
      if user ≠ [] ∧ '/' ∉ user then some (secret (String.ofList user)) else none := by
  have begins : secretPrefix.isPrefixOf (secretPrefix ++ user) = true :=
    List.isPrefixOf_iff_prefix.mpr (List.prefix_append _ _)
  rw [ofPath?, if_pos begins, List.drop_left]

theorem ofPath?_secretPrefix_of_slash (slash : '/' ∈ user) :
    ofPath? (secretPrefix ++ user) = none := by
  rw [ofPath?_secretPrefix, if_neg fun segment => segment.2 slash]

theorem dropSlashes_append (before user : List Char) :
    dropSlashes (before ++ user) =
      if dropSlashes user = [] then dropSlashes before else before ++ dropSlashes user := by
  rw [dropSlashes, List.reverse_append, List.dropWhile_append]
  by_cases bare : user.reverse.dropWhile (· = '/') = []
  · rw [if_pos (by simp [bare]), if_pos (by simp [dropSlashes, bare])]
    rfl
  · rw [if_neg (by simpa using bare), if_neg (by simpa [dropSlashes] using bare)]
    simp [dropSlashes]

theorem dropSlashes_of_getLast?_ne (other : user.getLast? ≠ some '/') :
    dropSlashes user = user := by
  rw [dropSlashes]
  cases reversed : user.reverse with
  | nil => simpa using reversed.symm
  | cons c rest =>
      have last : c ≠ '/' := by
        rintro rfl
        exact other (by rw [← List.head?_reverse, reversed]; rfl)
      rw [List.dropWhile_cons_of_neg (by simpa using last), ← reversed, List.reverse_reverse]

theorem getLast?_of_slash (slash : '/' ∈ user) (within : '/' ∉ dropSlashes user) :
    user.getLast? = some '/' := by
  refine Decidable.byContradiction fun other => ?_
  rw [dropSlashes_of_getLast?_ne other] at within
  exact within slash

/-- A path is none that the service knows if a slash stands in its last part.  If the slashes
only follow a segment, the sender is told to leave them away. -/
theorem find_of_slash (slash : '/' ∈ user) :
    find "GET" (String.ofList (secretPrefix ++ user)) =
      .error (if dropSlashes user ≠ [] ∧ '/' ∉ dropSlashes user then Response.redirected
        else Response.notFound) := by
  rw [find, String.toList_ofList, ofPath?_secretPrefix_of_slash slash]
  dsimp only
  by_cases segment : dropSlashes user ≠ [] ∧ '/' ∉ dropSlashes user
  · have last : (secretPrefix ++ user).getLast? = some '/' := by
      rw [List.getLast?_append, getLast?_of_slash slash segment.2]
      rfl
    have known : (ofPath? (dropSlashes (secretPrefix ++ user))).isSome = true := by
      rw [dropSlashes_append, if_neg segment.1, ofPath?_secretPrefix, if_pos segment]
      rfl
    rw [if_pos ⟨last, known⟩, if_pos segment]
  · have unknown : ofPath? (dropSlashes (secretPrefix ++ user)) = none := by
      rw [dropSlashes_append]
      by_cases bare : dropSlashes user = []
      · rw [if_pos bare]
        decide
      · rw [if_neg bare, ofPath?_secretPrefix, if_neg segment]
    rw [if_neg (by simp [unknown]), if_neg segment]

theorem find_of_segment (filled : user ≠ []) (segment : '/' ∉ user) :
    find "GET" (String.ofList (secretPrefix ++ user)) = .ok (secret (String.ofList user)) := by
  refine @find_of_ofPath? _ (secret (String.ofList user)) ?_
  rw [String.toList_ofList, ofPath?_secretPrefix, if_pos ⟨filled, segment⟩]

/-- The path of the secret of a user as it is sent, before it is decoded. -/
def secretTarget (user : String) : List Char := secretPrefix ++ Codec.Percent.encode user.toList

theorem decode_secretTarget (user : String) :
    Codec.Percent.decode (secretTarget user) = .ok (secretPrefix ++ user.toList) :=
  Codec.Percent.decode_append_encode (by decide) user.toList

end Route

/-! ## Secrets -/

variable {s : Store} {r : Request} {user password : String}

theorem read_of_unrouted {response : Response}
    (unrouted : Route.find r.method r.path = .error response) :
    read r = .error ⟨response, none⟩ := by
  rw [read, unrouted]

/-- Who has a session reads the secret, if looking for sessions does not fail. -/
theorem serve_secret (sound : s.backend.defects = .none) (formed : UserId.WellFormed user)
    (standard : s.config.secretTemplate = Config.standard.secretTemplate)
    (live : s.IsLoggedIn user) (unarmed : s.backend.isArmed .hasSession = false)
    (asking : Route.find r.method r.path = .ok (.secret user)) :
    serve s r =
      ⟨⟨.ok 200 (Payload.secret ⟨user, "Secrets for user " ++ user⟩).toJson, none⟩,
        some (.accessSecret user), s.acted (.call (.accessSecret user)),
        (s.act (.call (.accessSecret user))).events⟩ := by
  have read_ok : read r = .ok (.secret user) := by
    rw [read, asking]
  have rendered : Template.render s.config.secretTemplate user =
      .ok ("Secrets for user " ++ user) := by
    rw [standard, Template.render_standard, String.ofList_append, String.ofList_toList,
      String.ofList_toList]
  have granted := result_accessSecret_of_live sound formed live unarmed rendered
  rw [serve_of_ok read_ok]
  simp only [Demand.call, granted]
  rfl

def afterIncidents (s : Store) (incidents : List Incident) : Store :=
  (incidents.filterMap Incident.action?).foldl acted s

/-- Whatever has happened since a user was registered: who has a session, while looking for
sessions does not fail, gets the standard secret under the path of the identifier if no slash
stands in it.  Otherwise the path is none that the service knows, and no call is made. -/
theorem secret_after_created (sound : s.backend.defects = .none)
    (standard : s.config.secretTemplate = Config.standard.secretTemplate)
    (registering : Route.find r.method r.path = .ok .register) (carried : r.Carries user password)
    (created : (serve s r).reply.response.status = 201) (incidents : List Incident) :
    let t := afterIncidents (serve s r).store incidents
    t.IsLoggedIn user → t.backend.isArmed .hasSession = false →
      ∃ path, Codec.Percent.decode (Route.secretTarget user) = .ok path ∧
        ∀ asking : Request, asking.method = "GET" → asking.path = String.ofList path →
          let served := serve t asking
          ('/' ∉ user.toList → served.call = some (.accessSecret user) ∧
            served.reply.response =
              .ok 200 (Payload.secret ⟨user, "Secrets for user " ++ user⟩).toJson) ∧
          ('/' ∈ user.toList → served.call = none ∧ served.store = t ∧
            let segment := Route.dropSlashes user.toList
            served.reply.response =
              if segment ≠ [] ∧ '/' ∉ segment then .redirected else .notFound) := by
  intro t live unarmed
  obtain ⟨⟨call, registered⟩, formed, -⟩ := stored_of_created sound registering carried created
  have before : s.Used s.config s.salts := ⟨rfl, rfl, sound⟩
  have first : (serve s r).store.Used s.config s.salts := by
    rw [registered]
    exact before.acted (.call call)
  have used : t.Used s.config s.salts := first.run _
  have filled : user.toList ≠ [] := fun empty => formed.1 (String.toList_eq_nil_iff.mp empty)
  refine ⟨_, Route.decode_secretTarget user, fun asking method path => ⟨?_, ?_⟩⟩
  · intro segment
    have found : Route.find asking.method asking.path = .ok (.secret user) := by
      rw [method, path, Route.find_of_segment filled segment, String.ofList_toList]
    rw [serve_secret used.defects formed (used.config_eq ▸ standard) live unarmed found]
    exact ⟨rfl, rfl⟩
  · intro slash
    have answered := Route.find_of_slash slash
    rw [← method, ← path] at answered
    rw [serve_of_error (read_of_unrouted answered)]
    exact ⟨rfl, rfl, rfl⟩

def segmentsForm : List UInt8 :=
  Codec.Utf8.encodeString "\x7b\"user_id\": \"a/b\", \"password\": \"pw\"\x7d"

theorem carries_segments : (registration segmentsForm).Carries "a/b" "pw" :=
  @carries_of_toOption (registration segmentsForm) ⟨"a/b", "pw"⟩ rfl

def signedIn (r : Request) (user password : String) : Store :=
  afterIncidents (serve (blank .fast .counter []) r).store
    [.act (.call (.login (.pair ⟨user, ⟨password⟩⟩)))]

theorem created_of_new (formed : UserId.WellFormed user)
    (registering : Route.find r.method r.path = .ok .register) (carried : r.Carries user password) :
    (serve (blank .fast .counter []) r).reply.response.status = 201 := by
  have unarmed : (blank .fast .counter []).Unarmed := unarmed_of_unguarded rfl
  have absent : user ∉ (blank .fast .counter []).backend.memory.users :=
    Directory.not_mem_empty user
  exact created_of_returned registering carried
    (result_register_of_new rfl unarmed formed absent (by decide))

theorem live_signedIn (formed : UserId.WellFormed user)
    (registering : Route.find r.method r.path = .ok .register) (carried : r.Carries user password) :
    (signedIn r user password).IsLoggedIn user ∧
      (signedIn r user password).backend.isArmed .hasSession = false := by
  have start : (blank .fast .counter []).backend.defects = .none := rfl
  obtain ⟨⟨call, registered⟩, -, hash, hashed, stored⟩ :=
    stored_of_created start registering carried (created_of_new formed registering carried)
  have sound : (serve (blank .fast .counter []) r).store.backend.defects = .none := by
    rw [registered]
    exact act_defects start _
  have unarmed : (serve (blank .fast .counter []) r).store.Unarmed := by
    rw [registered]
    exact Unarmed.acted_call (unarmed_of_unguarded rfl) start call
  have entered := result_login_of_stored sound unarmed formed hashed stored
  exact ⟨entered.2, unarmed.acted_call sound _ .hasSession⟩

def askFor (path : String) : Request := { method := "GET", path }

/-- One user reads the secret, and the other one is not found. -/
theorem secret_after_created_segments :
    let s := signedIn (registration umlautForm) "ü" "pw"
    let t := signedIn (registration segmentsForm) "a/b" "pw"
    (Codec.Percent.decode (Route.secretTarget "ü") = .ok "/secret/ü".toList ∧
      (serve s (askFor "/secret/ü")).reply.response =
        .ok 200 (Payload.secret ⟨"ü", "Secrets for user ü"⟩).toJson) ∧
    Codec.Percent.decode (Route.secretTarget "a/b") = .ok "/secret/a/b".toList ∧
      t.IsLoggedIn "a/b" ∧ (serve t (askFor "/secret/a/b")).reply.response = .notFound := by
  intro s t
  constructor
  · have formed : UserId.WellFormed "ü" := by decide
    have registering := find_registration umlautForm
    have carried := @carries_of_toOption (registration umlautForm) ⟨"ü", "pw"⟩ rfl
    have reached := live_signedIn formed registering carried
    have decoded := Route.decode_secretTarget "ü"
    obtain ⟨path, read, answered⟩ := secret_after_created rfl rfl registering carried
      (created_of_new formed registering carried) _ reached.1 reached.2
    rw [decoded, Except.ok.injEq] at read
    have asked := answered (askFor "/secret/ü") rfl (by rw [← read]; rfl)
    exact ⟨decoded, (asked.1 (by decide)).2⟩
  · have formed : UserId.WellFormed "a/b" := by decide
    have registering := find_registration segmentsForm
    have reached := live_signedIn formed registering carries_segments
    have decoded := Route.decode_secretTarget "a/b"
    obtain ⟨path, read, answered⟩ := secret_after_created rfl rfl registering carries_segments
      (created_of_new formed registering carries_segments) _ reached.1 reached.2
    rw [decoded, Except.ok.injEq] at read
    have asked := answered (askFor "/secret/a/b") rfl (by rw [← read]; rfl)
    exact ⟨decoded, reached.1, (asked.2 (by decide)).2.2⟩

/-- Not everybody who has a session can read the secret. -/
theorem live_user_not_found :
    ¬∀ (r asking : Request) (user password : String) (incidents : List Incident),
      Route.find r.method r.path = .ok .register → r.Carries user password →
      (serve (blank .fast .counter []) r).reply.response.status = 201 →
      let t := afterIncidents (serve (blank .fast .counter []) r).store incidents
      t.IsLoggedIn user → t.backend.isArmed .hasSession = false →
      asking.method = "GET" →
      Codec.Percent.decode (Route.secretTarget user) = .ok asking.path.toList →
      (serve t asking).reply.response.status = 200 := by
  intro answered
  have formed : UserId.WellFormed "a/b" := by decide
  have registering := find_registration segmentsForm
  have reached := live_signedIn formed registering carries_segments
  have status := answered _ (askFor "/secret/a/b") "a/b" "pw" _ registering carries_segments
    (created_of_new formed registering carries_segments) reached.1 reached.2 rfl
    (Route.decode_secretTarget "a/b")
  have unknown : Route.find (askFor "/secret/a/b").method (askFor "/secret/a/b").path =
      .error .notFound :=
    Route.find_of_slash (show '/' ∈ "a/b".toList by decide)
  rw [serve_of_error (read_of_unrouted unknown)] at status
  cases status

end Http

end Gatekeeper
