import Gatekeeper.Proofs.Credentials
import Gatekeeper.Proofs.Password.Padding
import Gatekeeper.Proofs.Store.History

/-!
# Who can log in after a registration

After a registration a login is accepted exactly for the passwords from which the same
key is derived.  A password with zero characters after it is one of them, so not every
wrong password is denied.
-/

namespace Gatekeeper

namespace Store

variable {s : Store} {presented : Presented} {user : String} {password tried : Password}

/-! ## Registrations -/

def nextSalt (s : Store) : List UInt8 := s.salts.draw (s.draws + 1) s.config.saltBytes

/-- A user who is not there is registered, unless a fail point on the way is armed. -/
theorem result_register (sound : s.backend.defects = .none) (formed : UserId.WellFormed user)
    (absent : s.backend.memory.users.get? user = none)
    (asking : s.backend.isArmed .getPassword = false)
    (entering : s.backend.isArmed .register = false)
    (bound : s.config.hashIterations ≤ Hash.Pbkdf2.maxIterations) :
    (s.act (.call (.register user password))).result = .ok .done := by
  rw [result_act, outcome_register s.config s.salts sound, UserId.check_of_wellFormed formed]
  simp only [progress_backend, asking, entering, absent, Bool.false_eq_true, if_false,
    Password.hash_eq password _ s.config.iterations_pos bound]

theorem unarmed_of_register (sound : s.backend.defects = .none) (formed : UserId.WellFormed user)
    (registered : (s.act (.call (.register user password))).result = .ok .done) :
    s.backend.isArmed .getPassword = false := by
  cases armed : s.backend.isArmed .getPassword with
  | false => rfl
  | true =>
      rw [result_act, outcome_register s.config s.salts sound, UserId.check_of_wellFormed formed]
        at registered
      simp only [progress_backend, armed, if_true] at registered
      cases registered

/-- What a registration that returns leaves in the backend. -/
theorem backend_of_register (sound : s.backend.defects = .none)
    (registered : (s.act (.call (.register user password))).result = .ok .done) :
    UserId.WellFormed user ∧
      ∃ hash, password.hash s.nextSalt s.config.hashIterations = .ok hash ∧
        (s.acted (.call (.register user password))).backend =
          { s.backend with memory := { s.backend.memory with
            users := s.backend.memory.users.insert user (.hashed hash) } } := by
  obtain ⟨p, effect, reached⟩ := effect_of_result sound registered
  rw [acted, reached]
  cases effect with
  | looked _ _ idle => exact absurd idle id
  | @registered _ _ hash _ formed _ hashed backend => exact ⟨formed, hash, hashed, backend⟩

/-! ## Logins -/

theorem result_login_of_refused {malformation : Malformation}
    (refused : presented.credentials = .error malformation) :
    (s.act (.call (.login presented))).result = .error (.malformed malformation) := by
  have about : (Call.login presented).about = .error malformation := by
    simp only [Call.about, refused]
  rw [s.act_of_malformed about]

theorem result_login_of_unknown (sound : s.backend.defects = .none)
    (read : presented.credentials = .ok ⟨user, tried⟩)
    (asking : s.backend.isArmed .getPassword = false)
    (absent : s.backend.memory.users.get? user = none) :
    (s.act (.call (.login presented))).result = .ok (.flag false) := by
  rw [result_act, outcome_login s.config s.salts sound, read]
  simp only [progress_backend, asking, absent, Bool.false_eq_true, if_false]

theorem result_login (sound : s.backend.defects = .none) {presented : Presented}
    (read : presented.credentials = .ok ⟨user, tried⟩)
    (asking : s.backend.isArmed .getPassword = false) {stored : Stored} {equal : Bool}
    (found : s.backend.memory.users.get? user = some stored)
    (matching : stored.matching tried = .ok equal) :
    (s.act (.call (.login presented))).result =
      if equal ∧ s.backend.isArmed .addSession then .error FailPoint.addSession.failure
      else .ok (.flag equal) := by
  have unarmed : s.progress.backend.isArmed .getPassword = false := asking
  have known : s.progress.backend.memory.users.get? user = some stored := found
  rw [result_act, outcome_login s.config s.salts sound, read]
  simp only [unarmed, known, matching, Bool.false_eq_true, if_false]
  cases equal with
  | false => simp
  | true =>
      by_cases armed : s.backend.isArmed .addSession = true
      · rw [if_pos (by exact armed), if_pos ⟨rfl, armed⟩]
      · rw [if_neg (by exact armed), if_neg (by simp [armed])]

/-- Where nothing is armed, a login that is read is answered. -/
theorem exists_result_login (sound : s.backend.defects = .none) (bare : s.backend.guards = [])
    (verifiable : s.backend.memory.Verifiable)
    (read : presented.credentials = .ok ⟨user, tried⟩) :
    ∃ granted, (s.act (.call (.login presented))).result = .ok (.flag granted) := by
  have unarmed := unarmed_of_unguarded bare
  cases found : s.backend.memory.users.get? user with
  | none => exact ⟨false, result_login_of_unknown sound read (unarmed _) found⟩
  | some stored =>
      obtain ⟨equal, matching⟩ := verifiable.of_get? found tried
      have answered := result_login sound read (unarmed _) found matching
      rw [if_neg (by simp [unarmed .addSession])] at answered
      exact ⟨equal, answered⟩

/-- A login leaves the users as they are. -/
theorem users_acted_login (sound : s.backend.defects = .none) (presented : Presented) :
    (s.acted (.call (.login presented))).backend.memory.users = s.backend.memory.users := by
  rcases users_acted_cases sound (.call (.login presented)) with ⟨kept, -⟩ |
    ⟨_, _, _, _, ⟨asked, -⟩, -⟩
  · exact kept
  · cases asked

/-- A login that is granted is one of a registered user, who has a session afterwards. -/
theorem of_login_granted (sound : s.backend.defects = .none)
    (read : presented.credentials = .ok ⟨user, tried⟩)
    (granted : (s.act (.call (.login presented))).result = .ok (.flag true)) :
    user ∈ s.backend.memory.users ∧ (s.acted (.call (.login presented))).IsLoggedIn user := by
  obtain ⟨p, effect, -⟩ := effect_of_result sound granted
  obtain ⟨stored, found, -⟩ := effect.matching_of_login read
  have entered : Stage.LogsIn (s, .call (.login presented)) user tried :=
    ⟨presented, rfl, read, granted⟩
  exact ⟨Directory.get?_isSome_iff.mp (Option.isSome_of_eq_some found),
    (isLoggedIn_acted_iff sound _ user).mpr (.inl ⟨tried, entered⟩)⟩

theorem backend_of_denied (sound : s.backend.defects = .none) {presented : Presented}
    (denied : (s.act (.call (.login presented))).result = .ok (.flag false)) :
    (s.acted (.call (.login presented))).backend = s.backend := by
  obtain ⟨p, effect, reached⟩ := effect_of_result sound denied
  rw [acted, reached]
  cases effect with
  | looked backend => exact backend

/-! ## Logins after a registration -/

/-- What is compared are the keys that are derived from the two passwords. -/
theorem result_login_of_registered (sound : s.backend.defects = .none) {presented : Presented}
    (read : presented.credentials = .ok ⟨user, tried⟩)
    (registered : (s.act (.call (.register user password))).result = .ok .done) :
    ((s.acted (.call (.register user password))).act (.call (.login presented))).result =
      let same := decide (tried.key s.nextSalt s.config.hashIterations =
        password.key s.nextSalt s.config.hashIterations)
      if same ∧ s.backend.isArmed .addSession then .error FailPoint.addSession.failure
      else .ok (.flag same) := by
  obtain ⟨formed, hash, hashed, entered⟩ := backend_of_register sound registered
  obtain ⟨⟨positive, bound⟩, rfl⟩ := Password.eq_compose_of_hash_eq hashed
  have asking := unarmed_of_register sound formed registered
  generalize s.acted (.call (.register user password)) = s' at entered ⊢
  have guards : s'.backend.isArmed = s.backend.isArmed := by
    rw [entered]
    rfl
  have found : s'.backend.memory.users.get? user = some (.hashed (.compose s.config.hashIterations
      s.nextSalt (password.key s.nextSalt s.config.hashIterations))) := by
    rw [entered, Directory.get?_insert, if_pos rfl]
  rw [← guards]
  refine result_login ?_ read ?_ found (Stored.matching_compose tried positive bound _ _)
  · rw [entered]
    exact sound
  · rw [guards]
    exact asking

/-- After a registration a login is denied exactly if another key is derived from the password
that is tried.  Alike passwords are not told apart; short ones that are not alike have different
key blocks. -/
theorem login_after_register (sound : s.backend.defects = .none) (short : password.Short)
    (short' : tried.Short) {line : String} (written : Credentials.line user tried.text = .ok line)
    (registered : (s.act (.call (.register user password))).result = .ok .done) :
    let key (p : Password) := p.derive s.nextSalt s.config.hashIterations
    let s' := s.acted (.call (.register user password))
    let ended := s'.act (.call (.login (.line line)))
    (key tried ≠ key password →
      ended.result = .ok (.flag false) ∧ ended.store.backend = s'.backend) ∧
    (key tried = key password → s.backend.isArmed .addSession = false →
      ended.result = .ok (.flag true) ∧ ended.store.IsLoggedIn user) ∧
    (password.Alike tried → key tried = key password) ∧
    (¬password.Alike tried → password.block ≠ tried.block) := by
  intro key s' ended
  obtain ⟨formed, hash, hashed, -⟩ := backend_of_register sound registered
  obtain ⟨⟨positive, bound⟩, -⟩ := Password.eq_compose_of_hash_eq hashed
  have sound' : s'.backend.defects = .none := act_defects sound _
  have read : (Presented.line line).credentials = .ok ⟨user, tried⟩ := by
    obtain ⟨text, same, parsed⟩ := Credentials.exists_line formed tried.text
    rw [written, Except.ok.injEq] at same
    rw [same]
    exact parsed
  have answered := result_login_of_registered sound read registered
  dsimp only [key]
  rw [Password.derive_eq_key tried _ positive bound,
    Password.derive_eq_key password _ positive bound, ne_eq, Except.ok.injEq]
  refine ⟨?_, ?_, ?_, ?_⟩
  · intro other
    rw [decide_eq_false other, if_neg (by simp)] at answered
    exact ⟨answered, backend_of_denied sound' answered⟩
  · intro same unarmed
    rw [decide_eq_true same, if_neg (by simp [unarmed])] at answered
    have entered : Stage.LogsIn (s', .call (.login (.line line))) user tried :=
      ⟨.line line, rfl, read, answered⟩
    exact ⟨answered, (isLoggedIn_acted_iff sound' _ user).mpr (.inl ⟨tried, entered⟩)⟩
  · intro alike
    have block := (Password.block_eq_iff_alike short short').mpr alike
    exact Password.key_eq_of_block_eq block.symm _ _
  · intro different block
    exact different ((Password.block_eq_iff_alike short short').mp block)

theorem alike_zero : (⟨"a"⟩ : Password).Alike ⟨"a\x00"⟩ := .inr ⟨1, by decide⟩

/-- Of two wrong passwords one is accepted and one is denied. -/
theorem login_after_register_zero :
    let s := blank .fast .counter []
    let s' := s.acted (.call (.register "Bob" ⟨"a"⟩))
    (s.act (.call (.register "Bob" ⟨"a"⟩))).result = .ok .done ∧
      (s'.act (.call (.login (.line "Bob:a\x00")))).result = .ok (.flag true) ∧
      (s'.act (.call (.login (.line "Bob:b")))).result = .ok (.flag false) := by
  intro s s'
  have registered : (s.act (.call (.register "Bob" ⟨"a"⟩))).result = .ok .done :=
    result_register rfl (by decide) rfl rfl rfl (by decide)
  have alike := @login_after_register s "Bob" ⟨"a"⟩ ⟨"a\x00"⟩ rfl (by decide) (by decide)
    "Bob:a\x00" rfl registered
  have other := @login_after_register s "Bob" ⟨"a"⟩ ⟨"b"⟩ rfl (by decide) (by decide)
    "Bob:b" rfl registered
  refine ⟨registered, (alike.2.1 (alike.2.2.1 alike_zero) rfl).1, (other.1 ?_).1⟩
  dsimp only
  rw [Password.derive_eq_key _ _ s.config.iterations_pos (by decide),
    Password.derive_eq_key _ _ s.config.iterations_pos (by decide), ne_eq, Except.ok.injEq]
  decide +kernel

/-- Not every wrong password is denied, however short it is. -/
theorem wrong_password_accepted :
    ¬∀ (user : String) (password tried : Password) (line : String), UserId.WellFormed user →
      password ≠ tried → password.Short → tried.Short →
      Credentials.line user tried.text = .ok line →
      let s := (blank .fast .counter []).acted (.call (.register user password))
      (s.act (.call (.login (.line line)))).result = .ok (.flag false) := by
  intro denied
  have registered : ((blank .fast .counter []).act (.call (.register "Bob" ⟨"a"⟩))).result =
      .ok .done :=
    result_register rfl (by decide) rfl rfl rfl (by decide)
  have answered := @result_login_of_registered (blank .fast .counter []) "Bob" ⟨"a"⟩ ⟨"a\x00"⟩ rfl
    (.line "Bob:a\x00") rfl registered
  have same := Password.key_eq_of_block_eq
    ((Password.block_eq_iff_alike (p := ⟨"a"⟩) (q := ⟨"a\x00"⟩) (by decide) (by decide)).mpr
      alike_zero)
  rw [denied "Bob" ⟨"a"⟩ ⟨"a\x00"⟩ "Bob:a\x00" (by decide) (by decide) (by decide) (by decide) rfl,
    decide_eq_true (same _ _).symm, if_neg (by simp; rfl)] at answered
  cases answered

end Store

end Gatekeeper
