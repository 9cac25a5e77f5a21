import Gatekeeper.Proofs.Store.Regular
import Gatekeeper.Proofs.Store.Unarmed

/-!
# Which settings let users in

Settings promise at least one iteration and no most, but hashing refuses more than
`Hash.Pbkdf2.maxIterations`.  Up to that bound every new user of a store without
guards is registered and can log in.  Beyond it no registration of a well-formed
identifier returns, and what it fails with is no refusal; logins always end with an
answer or a refusal.
-/

namespace Gatekeeper

namespace Store

variable {s : Store} {user : String} {password : Password}

/-! ## Up to the bound -/

/-- Where nothing is armed, a new user is registered. -/
theorem result_register_of_new (sound : s.backend.defects = .none) (unarmed : s.Unarmed)
    (formed : UserId.WellFormed user) (absent : user ∉ s.backend.memory.users)
    (bound : s.config.hashIterations ≤ Hash.Pbkdf2.maxIterations) :
    (s.act (.call (.register user password))).result = .ok .done :=
  result_register sound formed (Directory.get?_eq_none_iff.mpr absent) (unarmed _) (unarmed _) bound

/-- Who was registered where nothing is armed can log in with the password. -/
theorem result_login_of_new (sound : s.backend.defects = .none) (unarmed : s.Unarmed)
    (registered : (s.act (.call (.register user password))).result = .ok .done)
    {presented : Presented} (read : presented.credentials = .ok ⟨user, password⟩) :
    let t := s.acted (.call (.register user password))
    (t.act (.call (.login presented))).result = .ok (.flag true) ∧
      (t.acted (.call (.login presented))).IsLoggedIn user := by
  intro t
  have granted := result_login_of_registered sound read registered
  rw [decide_eq_true rfl, if_neg (by simp [unarmed .addSession])] at granted
  exact ⟨granted, (of_login_granted (act_defects sound _) read granted).2⟩

/-! ## Beyond the bound -/

theorem exists_refusal_of_excess {iterations : Nat}
    (excess : ¬iterations ≤ Hash.Pbkdf2.maxIterations) :
    ∃ fault, Hash.Pbkdf2.refusal? iterations = some fault := by
  rw [← Option.isSome_iff_exists, Option.isSome_iff_ne_none]
  intro accepted
  have bounds := Hash.Pbkdf2.refusal?_eq_none_iff.mp accepted
  omega

/-- A new user is not registered if the iterations are refused. -/
theorem result_register_of_excess (sound : s.backend.defects = .none) (unarmed : s.Unarmed)
    (formed : UserId.WellFormed user) (absent : user ∉ s.backend.memory.users)
    {fault : Hash.Pbkdf2.Fault}
    (refused : Hash.Pbkdf2.refusal? s.config.hashIterations = some fault) :
    (s.act (.call (.register user password))).result = .error (.hashing fault) := by
  rw [result_act, outcome_register s.config s.salts sound, UserId.check_of_wellFormed formed]
  simp only [progress_backend, unarmed .getPassword, Directory.get?_eq_none_iff.mpr absent,
    Bool.false_eq_true, if_false, Password.hash_of_refused password _ refused]

/-- If hashing refuses the iterations, nobody is ever registered. -/
theorem not_mem_users_of_excess {config : Config} (salts : SaltSource)
    (guards : List (Roster FailPoint)) (actions : List Action)
    (excess : ¬config.hashIterations ≤ Hash.Pbkdf2.maxIterations) (user : String) :
    user ∉ (actions.foldl acted (blank config salts guards)).backend.memory.users := by
  intro known
  have regular := @regular_run config salts guards actions
  obtain ⟨stored, found⟩ := Option.isSome_iff_exists.mp (Directory.get?_isSome_iff.mpr known)
  have among := Directory.mem_values_of_get? found
  rw [regular.values_eq_nil excess] at among
  cases among

/-! ## All settings -/

/-- Without guards, a registration ends with an answer or a refusal up to the bound, and beyond it
only if the identifier is refused. -/
theorem hasOutcome_register_iff (config : Config) (salts : SaltSource) (actions : List Action)
    (user : String) (password : Password) :
    HasOutcome ((actions.foldl acted (blank config salts [])).act
        (.call (.register user password))).result ↔
      config.hashIterations ≤ Hash.Pbkdf2.maxIterations ∨ ¬UserId.WellFormed user := by
  have used := @used_run config salts [] actions
  have bare := guards_run config salts actions
  have new := @not_mem_users_of_excess config salts [] actions
  generalize actions.foldl acted (blank config salts []) = s at used bare new ⊢
  have settings := used.config_eq
  constructor
  · intro ended
    refine Decidable.byContradiction fun neither => ?_
    rw [not_or, Decidable.not_not] at neither
    obtain ⟨fault, refused⟩ := exists_refusal_of_excess neither.1
    rw [result_register_of_excess used.defects (unarmed_of_unguarded bare) neither.2
      (new neither.1 user) (settings ▸ refused)] at ended
    exact not_hasOutcome_of_ne (by simp) ended
  · rintro (bound | ill)
    · exact hasOutcome_register s.config s.salts used.defects (settings ▸ bound) user password
    · obtain ⟨malformation, refused⟩ := UserId.exists_check_eq_error ill
      have malformed : (Call.register user password).about = .error malformation := refused
      rw [s.act_of_malformed malformed]
      exact hasOutcome_refused _

/-- After any run of a store without guards, a new user is registered and can log in if the
iterations of the settings are not beyond the bound.  Otherwise the registration fails, and not
with a refusal; it leaves nothing, and the login is denied.  Registrations of well-formed
identifiers beyond the bound are the only registrations and logins that end so. -/
theorem enrolment_needs_bound (config : Config) (salts : SaltSource) (actions : List Action)
    {user : String} (password : String) (formed : UserId.WellFormed user) :
    let s := actions.foldl acted (blank config salts [])
    let registering := s.act (.call (.register user ⟨password⟩))
    let entering (line : String) := registering.store.act (.call (.login (.line line)))
    user ∉ s.backend.memory.users →
      ∃ line, Credentials.line user password = .ok line ∧
        (config.hashIterations ≤ Hash.Pbkdf2.maxIterations →
          registering.result = .ok .done ∧ (entering line).result = .ok (.flag true) ∧
            (entering line).store.IsLoggedIn user) ∧
        (¬config.hashIterations ≤ Hash.Pbkdf2.maxIterations →
          (∃ fault, Hash.Pbkdf2.refusal? config.hashIterations = some fault ∧
            registering.result = .error (.hashing fault)) ∧
          registering.store.backend = s.backend ∧ (entering line).result = .ok (.flag false)) ∧
        (∀ other tried, HasOutcome (s.act (.call (.register other tried))).result ↔
          config.hashIterations ≤ Hash.Pbkdf2.maxIterations ∨ ¬UserId.WellFormed other) ∧
        ∀ presented, HasOutcome (s.act (.call (.login presented))).result := by
  intro s registering entering absent
  have used : s.Used config salts := used_run [] actions
  have unarmed : s.Unarmed := unarmed_of_unguarded (guards_run config salts actions)
  have regular : s.backend.memory.Regular config := regular_run salts [] actions
  have settings := used.config_eq
  obtain ⟨line, written, parsed⟩ := Credentials.exists_line formed password
  have read : (Presented.line line).credentials = .ok ⟨user, ⟨password⟩⟩ := parsed
  refine ⟨line, written, ?_, ?_, hasOutcome_register_iff config salts actions, ?_⟩
  · intro bound
    have registered : registering.result = .ok .done :=
      result_register_of_new used.defects unarmed formed absent (settings ▸ bound)
    exact ⟨registered, result_login_of_new used.defects unarmed registered read⟩
  · intro excess
    obtain ⟨fault, refused⟩ := exists_refusal_of_excess excess
    have failed : registering.result = .error (.hashing fault) :=
      result_register_of_excess used.defects unarmed formed absent (settings ▸ refused)
    have kept : registering.store.backend = s.backend := backend_of_error used.defects failed
    refine ⟨⟨fault, refused, failed⟩, kept, ?_⟩
    refine result_login_of_unknown (act_defects used.defects _) read ?_ ?_
    · exact kept ▸ unarmed .getPassword
    · exact kept ▸ Directory.get?_eq_none_iff.mpr absent
  · exact hasOutcome_login s.config s.salts used.defects regular.verifiable

end Store

def Config.excessive : Config :=
  { standard with hashIterations := 2147483648, iterations_pos := Nat.le_add_left 1 2147483647 }

namespace Store

/-- A new user is registered and logs in, and under other settings the same user is not. -/
theorem enrolment_needs_bound_excessive :
    let registering : Action := .call (.register "Bob" ⟨"pw"⟩)
    let s := blank .fast .counter []
    let t := blank .excessive .counter []
    (∃ line, Credentials.line "Bob" "pw" = .ok line ∧ (s.act registering).result = .ok .done ∧
      ((s.act registering).store.act (.call (.login (.line line)))).result = .ok (.flag true)) ∧
    ∃ line, Credentials.line "Bob" "pw" = .ok line ∧
      (t.act registering).result = .error (.hashing .tooGreat) ∧
      ((t.act registering).store.act (.call (.login (.line line)))).result =
        .ok (.flag false) := by
  have formed : UserId.WellFormed "Bob" := by decide
  constructor
  · obtain ⟨line, written, registered, -⟩ :=
      @enrolment_needs_bound .fast .counter [] "Bob" "pw" formed (by decide)
    obtain ⟨done, entered, -⟩ := registered (by decide)
    exact ⟨line, written, done, entered⟩
  · obtain ⟨line, written, -, failed, -⟩ :=
      @enrolment_needs_bound .excessive .counter [] "Bob" "pw" formed (by decide)
    obtain ⟨⟨fault, refused, ended⟩, -, denied⟩ := failed (by decide)
    have cause : Hash.Pbkdf2.refusal? Config.excessive.hashIterations = some .tooGreat := by decide
    obtain rfl : .tooGreat = fault := Option.some.inj (cause.symm.trans refused)
    exact ⟨line, written, ended, denied⟩

/-- Not all settings let users register. -/
theorem settings_without_users :
    ¬∀ (config : Config) (user password : String), UserId.WellFormed user →
      ((blank config .counter []).act (.call (.register user ⟨password⟩))).result = .ok .done := by
  intro returned
  have ended := returned .excessive "Bob" "pw" (by decide)
  have failed := @result_register_of_excess (blank .excessive .counter []) "Bob" ⟨"pw"⟩ rfl
    (unarmed_of_unguarded rfl) (by decide) (by decide) .tooGreat (by decide)
  rw [ended] at failed
  cases failed

end Store

end Gatekeeper
