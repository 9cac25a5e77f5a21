import Gatekeeper.Proofs.Store.Call

/-!
# What a call can do

A call that fails leaves the backend as it was.  One that returns has either only
looked at the backend or made one of three changes: a user who was not there is
registered with a hash under the salt that was drawn, or a session is opened or
closed.
-/

namespace Gatekeeper

def Call.OnlyLooks (value : Value) : Call → Prop
  | .register _ _ | .logout _ => False
  | .login _ => value = .flag false
  | .isLoggedIn _ | .accessSecret _ => True

namespace Store

inductive Effect (config : Config) (salts : SaltSource) (p : Progress) :
    Call → Except Failure Value → Progress → Prop where
  | failed {call : Call} {failure : Failure} {p' : Progress} (backend : p'.backend = p.backend)
      (least : p.draws ≤ p'.draws) (most : p'.draws ≤ p.draws + 1) :
      Effect config salts p call (.error failure) p'
  | looked {call : Call} {value : Value} {p' : Progress} (backend : p'.backend = p.backend)
      (draws : p'.draws = p.draws) (idle : call.OnlyLooks value) :
      Effect config salts p call (.ok value) p'
  | registered {user : String} {password : Password} {hash : PasswordHash} {p' : Progress}
      (wellFormed : UserId.WellFormed user) (absent : p.backend.memory.users.get? user = none)
      (hashed : password.hash (salts.draw (p.draws + 1) config.saltBytes) config.hashIterations =
        .ok hash)
      (backend : p'.backend = { p.backend with memory := { p.backend.memory with
        users := p.backend.memory.users.insert user (.hashed hash) } })
      (draws : p'.draws = p.draws + 1) :
      Effect config salts p (.register user password) (.ok .done) p'
  | opened {presented : Presented} {credentials : Credentials} {stored : Stored} {p' : Progress}
      (read : presented.credentials = .ok credentials)
      (found : p.backend.memory.users.get? credentials.user = some stored)
      (matching : stored.matching credentials.password = .ok true)
      (backend : p'.backend = { p.backend with memory := { p.backend.memory with
        sessions := p.backend.memory.sessions.insert credentials.user } })
      (draws : p'.draws = p.draws) :
      Effect config salts p (.login presented) (.ok (.flag true)) p'
  | closed {user : String} {p' : Progress} (wellFormed : UserId.WellFormed user)
      (backend : p'.backend = { p.backend with memory := { p.backend.memory with
        sessions := p.backend.memory.sessions.erase user } })
      (draws : p'.draws = p.draws) : Effect config salts p (.logout user) (.ok .done) p'

section Calls

variable (config : Config) (salts : SaltSource) {p : Progress}

theorem effect_register (sound : p.backend.defects = .none) (user : String)
    (password : Password) :
    Effect config salts p (.register user password)
      ((activity config salts (.register user password)).outcome p).1
      ((activity config salts (.register user password)).outcome p).2 := by
  rw [outcome_register config salts sound]
  cases checked : UserId.check user with
  | error malformation => exact .failed rfl (Nat.le_refl _) (Nat.le_succ _)
  | ok id =>
      obtain ⟨wellFormed, rfl⟩ := UserId.check_eq_ok_iff.mp checked
      dsimp only
      by_cases asking : p.backend.isArmed .getPassword = true
      · rw [if_pos asking]
        exact .failed rfl (Nat.le_refl _) (Nat.le_succ _)
      · rw [if_neg asking]
        cases found : p.backend.memory.users.get? id with
        | some stored => exact .failed rfl (Nat.le_refl _) (Nat.le_succ _)
        | none =>
            cases hashed : password.hash (salts.draw (p.draws + 1) config.saltBytes)
                config.hashIterations with
            | error fault => exact .failed rfl (Nat.le_succ _) (Nat.le_refl _)
            | ok hash =>
                dsimp only
                by_cases entering : p.backend.isArmed .register = true
                · rw [if_pos entering]
                  exact .failed rfl (Nat.le_succ _) (Nat.le_refl _)
                · rw [if_neg entering]
                  exact .registered wellFormed found hashed rfl rfl

theorem effect_login (sound : p.backend.defects = .none) (presented : Presented) :
    Effect config salts p (.login presented)
      ((activity config salts (.login presented)).outcome p).1
      ((activity config salts (.login presented)).outcome p).2 := by
  rw [outcome_login config salts sound]
  cases read : presented.credentials with
  | error malformation => exact .failed rfl (Nat.le_refl _) (Nat.le_succ _)
  | ok credentials =>
      dsimp only
      by_cases asking : p.backend.isArmed .getPassword = true
      · rw [if_pos asking]
        exact .failed rfl (Nat.le_refl _) (Nat.le_succ _)
      · rw [if_neg asking]
        cases found : p.backend.memory.users.get? credentials.user with
        | none => exact .looked rfl rfl rfl
        | some stored =>
            dsimp only
            cases matching : stored.matching credentials.password with
            | error failure => exact .failed rfl (Nat.le_refl _) (Nat.le_succ _)
            | ok equal =>
                cases equal with
                | false => exact .looked rfl rfl rfl
                | true =>
                    dsimp only
                    by_cases entering : p.backend.isArmed .addSession = true
                    · rw [if_pos entering]
                      exact .failed rfl (Nat.le_refl _) (Nat.le_succ _)
                    · rw [if_neg entering]
                      exact .opened read found matching rfl rfl

theorem effect_logout (sound : p.backend.defects = .none) (user : String) :
    Effect config salts p (.logout user)
      ((activity config salts (.logout user)).outcome p).1
      ((activity config salts (.logout user)).outcome p).2 := by
  rw [outcome_logout config salts sound]
  cases checked : UserId.check user with
  | error malformation => exact .failed rfl (Nat.le_refl _) (Nat.le_succ _)
  | ok id =>
      obtain ⟨wellFormed, rfl⟩ := UserId.check_eq_ok_iff.mp checked
      dsimp only
      by_cases leaving : p.backend.isArmed .removeSession = true
      · rw [if_pos leaving]
        exact .failed rfl (Nat.le_refl _) (Nat.le_succ _)
      · rw [if_neg leaving]
        exact .closed wellFormed rfl rfl

theorem effect_isLoggedIn (sound : p.backend.defects = .none) (user : String) :
    Effect config salts p (.isLoggedIn user)
      ((activity config salts (.isLoggedIn user)).outcome p).1
      ((activity config salts (.isLoggedIn user)).outcome p).2 := by
  rw [outcome_isLoggedIn config salts sound]
  cases UserId.check user with
  | error malformation => exact .failed rfl (Nat.le_refl _) (Nat.le_succ _)
  | ok id =>
      dsimp only
      by_cases asking : p.backend.isArmed .hasSession = true
      · rw [if_pos asking]
        exact .failed rfl (Nat.le_refl _) (Nat.le_succ _)
      · rw [if_neg asking]
        exact .looked rfl rfl trivial

theorem effect_accessSecret (sound : p.backend.defects = .none) (user : String) :
    Effect config salts p (.accessSecret user)
      ((activity config salts (.accessSecret user)).outcome p).1
      ((activity config salts (.accessSecret user)).outcome p).2 := by
  rw [outcome_accessSecret config salts sound]
  cases UserId.check user with
  | error malformation => exact .failed rfl (Nat.le_refl _) (Nat.le_succ _)
  | ok id =>
      dsimp only
      by_cases asking : p.backend.isArmed .hasSession = true
      · rw [if_pos asking]
        exact .failed rfl (Nat.le_refl _) (Nat.le_succ _)
      · rw [if_neg asking]
        by_cases live : id ∈ p.backend.memory.sessions
        · rw [if_pos live]
          cases Template.render config.secretTemplate id with
          | error fault => exact .failed rfl (Nat.le_refl _) (Nat.le_succ _)
          | ok message => exact .looked rfl rfl trivial
        · rw [if_neg live]
          exact .failed rfl (Nat.le_refl _) (Nat.le_succ _)

theorem effect_outcome (sound : p.backend.defects = .none) (call : Call) :
    Effect config salts p call ((activity config salts call).outcome p).1
      ((activity config salts call).outcome p).2 := by
  cases call with
  | register user password => exact effect_register config salts sound user password
  | login presented => exact effect_login config salts sound presented
  | logout user => exact effect_logout config salts sound user
  | isLoggedIn user => exact effect_isLoggedIn config salts sound user
  | accessSecret user => exact effect_accessSecret config salts sound user

end Calls

/-- What a call has done is one of the effects that go with its result. -/
theorem effect_of_result {s : Store} (sound : s.backend.defects = .none) {call : Call}
    {result : Except Failure Value} (ended : (s.act (.call call)).result = result) :
    ∃ p, Effect s.config s.salts s.progress call result p ∧
      (s.act (.call call)).store = s.continued p := by
  subst ended
  exact ⟨_, effect_outcome s.config s.salts (p := s.progress) sound call, rfl⟩

end Store

/-! ## Arming -/

namespace Backend

open Activity

def ChangesGuards (activity : Activity Unit) : Prop :=
  ∀ p, ∃ guards, (activity.outcome p).2.backend = { p.backend with guards } ∧
    (activity.outcome p).2.draws = p.draws

theorem rearm_changesGuards (depth : Nat) (request : String)
    (change : Roster FailPoint → Roster FailPoint) :
    ChangesGuards (rearm depth request change) := by
  intro p
  rw [outcome_rearm, updateGuard?]
  by_cases guarded : depth < p.backend.guards.length
  · rw [if_pos guarded]
    exact ⟨p.backend.guards.modify depth change, rfl, rfl⟩
  · rw [if_neg guarded]
    exact ⟨p.backend.guards, rfl, rfl⟩

theorem bind_changesGuards {activity : Activity Unit} {next : Unit → Activity Unit}
    (first : ChangesGuards activity) (second : ChangesGuards (next ())) :
    ChangesGuards (activity >>= next) := by
  intro p
  obtain ⟨guards, changed, drawn⟩ := first p
  rw [outcome_bind]
  generalize activity.outcome p = ended at changed drawn ⊢
  obtain ⟨result, p'⟩ := ended
  cases result with
  | error failure => exact ⟨guards, changed, drawn⟩
  | ok value =>
      obtain ⟨guards', changed', drawn'⟩ := second p'
      refine ⟨guards', ?_, drawn'.trans drawn⟩
      show ((next ()).outcome p').2.backend = _
      rw [changed']
      show { p'.backend with guards := guards' } = _
      rw [show p'.backend = _ from changed]

theorem arm_changesGuards (depth : Nat) (name : String) : ChangesGuards (arm depth name) := by
  rw [arm]
  cases FailPoint.ofName? name with
  | some point =>
      refine bind_changesGuards (rearm_changesGuards depth "arm" (·.insert point)) ?_
      intro p
      exact ⟨p.backend.guards, rfl, rfl⟩
  | none =>
      refine bind_changesGuards (rearm_changesGuards depth "arm" id) ?_
      intro p
      exact ⟨p.backend.guards, rfl, rfl⟩

theorem disarm_changesGuards (depth : Nat) (name : String) :
    ChangesGuards (disarm depth name) :=
  rearm_changesGuards depth "disarm" _

theorem reset_changesGuards (depth : Nat) : ChangesGuards (reset depth) :=
  rearm_changesGuards depth "reset" _

end Backend

namespace Store

theorem run_guards (s : Store) {activity : Activity Unit}
    (changes : Backend.ChangesGuards activity) :
    ∃ guards, (s.run activity).store = { s with backend := { s.backend with guards } } := by
  obtain ⟨guards, changed, drawn⟩ := changes s.progress
  refine ⟨guards, ?_⟩
  rw [run_eq, continued, changed, drawn]
  rfl

/-- An action that is no call changes the guards alone. -/
theorem act_call_or_guards (s : Store) (action : Action) :
    (∃ call, action = .call call) ∨
      ∃ guards, (s.act action).store = { s with backend := { s.backend with guards } } := by
  cases action with
  | call call => exact .inl ⟨call, rfl⟩
  | arm name =>
      have changed := s.run_guards (Backend.arm_changesGuards 0 name)
      exact .inr changed
  | disarm name =>
      have changed := s.run_guards (Backend.disarm_changesGuards 0 name)
      exact .inr changed
  | reset =>
      have changed := s.run_guards (Backend.reset_changesGuards 0)
      exact .inr changed

theorem act_salts (s : Store) (action : Action) : (s.act action).store.salts = s.salts := by
  cases action <;> rfl

end Store

end Gatekeeper
