import Gatekeeper.Proofs.Store.Enrolment
import Gatekeeper.Proofs.Store.History
import Gatekeeper.Proofs.Template.Fitting

/-!
# Which settings give everybody a secret

Settings are accepted if the value's name stands between braces somewhere in the
template, and the template is only filled in for a user who asks for the secret.  So the
settings give everybody a secret exactly if the template fits.  Accepted plain templates
do.  Others may give out a text without the user, or let the call fail with what is no
refusal.
-/

namespace Gatekeeper

/-- However a store was used: who has a session, while looking for sessions does not fail, gets a
secret with the identifier in it. -/
def Config.GivesSecrets (config : Config) : Prop :=
  ∀ (salts : SaltSource) (guards : List (Roster FailPoint)) (actions : List Action) (user : String),
    UserId.WellFormed user →
    let s := actions.foldl Store.acted (Store.blank config salts guards)
    s.IsLoggedIn user → s.backend.isArmed .hasSession = false →
    ∃ message, (s.act (.call (.accessSecret user))).result = .ok (.secret ⟨user, message⟩) ∧
      user.toList <:+: message.toList

namespace Store

variable {s : Store} {user : String}

/-! ## One call -/

/-- If the template cannot be filled in, a user with a session gets that failure. -/
theorem result_accessSecret_of_fault (sound : s.backend.defects = .none)
    (formed : UserId.WellFormed user) (live : s.IsLoggedIn user)
    (unarmed : s.backend.isArmed .hasSession = false) {fault : Template.Fault}
    (unrendered : Template.render s.config.secretTemplate user = .error fault) :
    (s.act (.call (.accessSecret user))).result = .error (.template fault) := by
  have asking : user ∈ s.backend.memory.sessions := live
  rw [result_act, outcome_accessSecret s.config s.salts sound, UserId.check_of_wellFormed formed]
  simp only [progress_backend, unarmed, unrendered, Bool.false_eq_true, if_false, if_pos asking]

theorem backend_accessSecret (sound : s.backend.defects = .none) (user : String) :
    (s.acted (.call (.accessSecret user))).backend = s.backend := by
  cases ended : (s.act (.call (.accessSecret user))).result with
  | error failure => exact backend_of_error sound ended
  | ok value =>
      obtain ⟨memory, left, rfl⟩ := leaves_of_returned sound ended
      exact left

/-! ## Somebody with a session -/

def entered (config : Config) (user : String) : Store :=
  [.call (.register user ⟨""⟩), .call (.login (.pair ⟨user, ⟨""⟩⟩))].foldl acted
    (blank config .counter [])

theorem isLoggedIn_entered {config : Config} (formed : UserId.WellFormed user)
    (bound : config.hashIterations ≤ Hash.Pbkdf2.maxIterations) :
    (entered config user).IsLoggedIn user := by
  have unarmed : (blank config .counter []).Unarmed := unarmed_of_unguarded rfl
  have registered := @result_register_of_new (blank config .counter []) user ⟨""⟩ rfl unarmed formed
    (Directory.not_mem_empty user) bound
  have read : (Presented.pair ⟨user, ⟨""⟩⟩).credentials = .ok ⟨user, ⟨""⟩⟩ := by
    simp [Presented.credentials, Credentials.check, UserId.check_of_wellFormed formed]
  exact (result_login_of_new rfl unarmed registered read).2

theorem isArmed_entered (config : Config) (user : String) (point : FailPoint) :
    (entered config user).backend.isArmed point = false :=
  unarmed_of_unguarded (guards_run config .counter _) point

/-- Sessions need somebody to be registered, and so iterations that are not refused. -/
theorem iterations_le_of_live {config : Config} {salts : SaltSource}
    {guards : List (Roster FailPoint)} {actions : List Action}
    (live : (actions.foldl acted (blank config salts guards)).IsLoggedIn user) :
    config.hashIterations ≤ Hash.Pbkdf2.maxIterations := by
  refine Decidable.byContradiction fun excess => ?_
  have regular := @regular_run config salts guards actions
  exact not_mem_users_of_excess salts guards actions excess user (regular.registered user live)

/-! ## Templates that fit -/

theorem givesSecrets_of_fits {config : Config}
    (fits : Template.Fits Template.Value.attribute? config.secretTemplate) :
    config.GivesSecrets := by
  intro salts guards actions user formed s live unarmed
  have used : s.Used config salts := used_run guards actions
  obtain ⟨message, rendered, inside⟩ := fits user formed
  rw [← used.config_eq] at rendered
  exact ⟨message, result_accessSecret_of_live used.defects formed live unarmed rendered, inside⟩

/-- If hashing takes the iterations, anybody may come to ask. -/
theorem givesSecrets_iff {config : Config}
    (bound : config.hashIterations ≤ Hash.Pbkdf2.maxIterations) :
    config.GivesSecrets ↔ Template.Fits Template.Value.attribute? config.secretTemplate := by
  refine ⟨?_, givesSecrets_of_fits⟩
  intro gives user formed
  have used : (entered config user).Used config .counter := used_run [] _
  have live := isLoggedIn_entered formed bound
  have unarmed := isArmed_entered config user .hasSession
  obtain ⟨message, given, inside⟩ := gives .counter [] _ user formed live unarmed
  refine ⟨message, ?_, inside⟩
  show Template.render config.secretTemplate user = .ok message
  cases rendered : Template.render config.secretTemplate user with
  | ok text =>
      rw [← used.config_eq] at rendered
      have shown := result_accessSecret_of_live used.defects formed live unarmed rendered
      obtain rfl : message = text := by simpa using given.symm.trans shown
      rfl
  | error fault =>
      rw [← used.config_eq] at rendered
      have failed := result_accessSecret_of_fault used.defects formed live unarmed rendered
      cases given.symm.trans failed

/-- Who has a session, while looking for sessions does not fail, asks for the secret without
changing anything.  A piece that nobody fills lets the call fail with what is no refusal, and a
plain template has the user in it.  Where fields of the value are fields of just the value, it is
read off the pieces whether the settings give everybody a secret.  Where no attribute is selected,
the call ends as filling in the template ends, whatever attributes there are, and the settings give
everybody a secret exactly if the template fits. -/
theorem secret_of_template (config : Config) (salts : SaltSource)
    (guards : List (Roster FailPoint)) (actions : List Action) {user : String}
    (formed : UserId.WellFormed user) :
    let s := actions.foldl acted (blank config salts guards)
    let template := config.secretTemplate
    let parts := Template.pieces template.toList
    let asking := s.act (.call (.accessSecret user))
    s.IsLoggedIn user → s.backend.isArmed .hasSession = false →
      asking.store.backend = s.backend ∧
      ((∃ piece ∈ parts, piece.IsUnfillable) → ¬HasOutcome asking.result) ∧
      (Template.Plain template.toList → ∃ message,
        asking.result = .ok (.secret ⟨user, message⟩) ∧ user.toList <:+: message.toList) ∧
      ((∀ piece ∈ parts, piece.IsUnfillable ∨ piece.IsSimple) →
        (config.GivesSecrets ↔
          (∀ piece ∈ parts, piece.IsSimple) ∧ .field .whole ∈ parts)) ∧
      (¬Template.SelectsAttribute template → ∀ attributes,
        (∀ message, Template.renderBy attributes template user = .ok message →
          asking.result = .ok (.secret ⟨user, message⟩)) ∧
        (∀ fault, Template.renderBy attributes template user = .error fault →
          asking.result = .error (.template fault)) ∧
        (config.GivesSecrets ↔ Template.Fits attributes template)) := by
  intro s template parts asking live unarmed
  have used : s.Used config salts := used_run guards actions
  have settings : s.config.secretTemplate = template := by rw [used.config_eq]
  have gives := givesSecrets_iff (iterations_le_of_live live)
  have failing : ∀ fault, Template.render template user = .error fault →
      asking.result = .error (.template fault) := fun fault unrendered =>
    result_accessSecret_of_fault used.defects formed live unarmed (settings ▸ unrendered)
  refine ⟨backend_accessSecret used.defects user, ?_, ?_, fun bare => ?_, ?_⟩
  · rintro ⟨piece, among, unfillable⟩
    obtain ⟨fault, unrendered⟩ := Template.renderBy_of_unfillable among unfillable user
    rw [failing fault unrendered]
    exact not_hasOutcome_of_ne (by simp)
  · intro plain
    exact givesSecrets_of_fits (plain.fits config.mentions_user) salts guards actions user formed
      live unarmed
  · exact gives.trans (Template.fits_iff bare)
  · intro unselected attributes
    have same (id : String) :
        Template.render template id = Template.renderBy attributes template id :=
      Template.renderBy_eq _ _ unselected id
    refine ⟨?_, fun fault unrendered => failing fault ((same user).trans unrendered), ?_⟩
    · intro message rendered
      have given := settings ▸ (same user).trans rendered
      exact result_accessSecret_of_live used.defects formed live unarmed given
    · exact gives.trans (Template.fits_congr same)

end Store

/-- Settings with a template that has a field of another name. -/
def Config.moody : Config :=
  { Config.fast with
    secretTemplate := "hi \x7buser_id\x7d \x7bmood\x7d"
    mentions_user := by decide }

/-- Settings with a template in which all braces are escaped. -/
def Config.escaped : Config :=
  { Config.fast with
    secretTemplate := "\x7b\x7buser_id\x7d\x7d"
    mentions_user := by decide }

namespace Store

/-- A secret, a failure, and a secret of nobody. -/
theorem secret_of_template_bob :
    ((entered .fast "Bob").act (.call (.accessSecret "Bob"))).result =
        .ok (.secret ⟨"Bob", "Secrets for user Bob"⟩) ∧
      ((entered .moody "Bob").act (.call (.accessSecret "Bob"))).result =
        .error (.template (.unknownName "mood")) ∧
      ((entered .escaped "Bob").act (.call (.accessSecret "Bob"))).result =
        .ok (.secret ⟨"Bob", "\x7buser_id\x7d"⟩) ∧
      ¬Config.escaped.GivesSecrets := by
  have formed : UserId.WellFormed "Bob" := by decide
  obtain ⟨-, -, -, -, filled⟩ := secret_of_template .fast .counter [] _ formed
    (isLoggedIn_entered formed (by decide)) (isArmed_entered .fast "Bob" .hasSession)
  obtain ⟨-, -, -, -, unfilled⟩ := secret_of_template .moody .counter [] _ formed
    (isLoggedIn_entered formed (by decide)) (isArmed_entered .moody "Bob" .hasSession)
  obtain ⟨-, -, -, gives, escaped⟩ := secret_of_template .escaped .counter [] _ formed
    (isLoggedIn_entered formed (by decide)) (isArmed_entered .escaped "Bob" .hasSession)
  obtain ⟨given, -⟩ := filled (by decide) Template.Value.attribute?
  obtain ⟨-, failed, -⟩ := unfilled (by decide) Template.Value.attribute?
  obtain ⟨fixed, -⟩ := escaped (by decide) Template.Value.attribute?
  have literal : Template.pieces Config.escaped.secretTemplate.toList =
      "\x7buser_id\x7d".toList.map .literal := by decide
  rw [literal] at gives
  refine ⟨given _ rfl, failed _ rfl, fixed _ rfl, fun all => ?_⟩
  have mentioned := ((gives fun piece among => ?_).mp all).2
  · obtain ⟨c, -, same⟩ := List.mem_map.mp mentioned
    cases same
  · obtain ⟨c, -, rfl⟩ := List.mem_map.mp among
    exact .inr trivial

/-- Not all settings give everybody a secret. -/
theorem settings_without_secrets : ¬∀ config : Config, config.GivesSecrets := by
  intro all
  have formed : UserId.WellFormed "Bob" := by decide
  have live := @isLoggedIn_entered "Bob" .moody formed (by decide)
  have unarmed := isArmed_entered .moody "Bob" .hasSession
  obtain ⟨message, given, -⟩ := all .moody .counter [] _ "Bob" formed live unarmed
  have used : (entered .moody "Bob").Used .moody .counter := used_run [] _
  have unrendered : Template.render Config.moody.secretTemplate "Bob" =
      .error (.unknownName "mood") := rfl
  rw [← used.config_eq] at unrendered
  have failed := result_accessSecret_of_fault used.defects formed live unarmed unrendered
  cases given.symm.trans failed

end Store

end Gatekeeper
