import Gatekeeper.Proofs.Store.Activity

/-!
# What each call does

Over a backend without defects, behind any number of guards with anything armed on
them, every call of a store has one description: how it ends, what it leaves in
the memory, and what happens on the way.  Arming changes one guard.
-/

namespace Gatekeeper

/-- The user whom a call concerns, or what is wrong with how it names the user. -/
def Call.about : Call → Except Malformation String
  | .login presented =>
      match presented.credentials with
      | .ok credentials => .ok credentials.user
      | .error malformation => .error malformation
  | .register user _ | .logout user | .isLoggedIn user | .accessSecret user => UserId.check user

namespace Store

open Activity Backend

/-! ## Whole activities -/

def progress (s : Store) : Progress := { backend := s.backend, draws := s.draws }

theorem progress_backend (s : Store) : s.progress.backend = s.backend := rfl

/-- A store over a memory without defects, behind guards on which anything is armed. -/
def onMemory (config : Config) (salts : SaltSource) (draws : Nat) (guards : List (Roster FailPoint))
    (memory : Memory) : Store :=
  { config, salts, draws, backend := { guards, memory } }

def continued (s : Store) (p : Progress) : Store :=
  { s with backend := p.backend, draws := p.draws }

theorem run_eq {α : Type} (s : Store) (activity : Activity α) :
    s.run activity =
      ⟨(activity.outcome s.progress).1, s.continued (activity.outcome s.progress).2,
        (activity.outcome s.progress).2.events⟩ := rfl

theorem perform_eq (s : Store) (call : Call) :
    s.perform call = s.run (activity s.config s.salts call) := rfl

theorem result_act (s : Store) (call : Call) :
    (s.act (.call call)).result =
      ((activity s.config s.salts call).outcome s.progress).1 := rfl

theorem perform_of_outcome (s : Store) {call : Call} {ended : Except Failure Value × Progress}
    (outcome : (activity s.config s.salts call).outcome s.progress = ended) :
    s.perform call = ⟨ended.1, s.continued ended.2, ended.2.events⟩ := by
  rw [perform_eq, run_eq, outcome]

/-! ## Calls -/

variable (config : Config) (salts : SaltSource) {p : Progress}

/-- A malformed call is refused before it reaches the backend. -/
theorem outcome_of_malformed {call : Call} {malformation : Malformation}
    (malformed : call.about = .error malformation) (p : Progress) :
    (activity config salts call).outcome p = (.error (.malformed malformation), p) := by
  cases call with
  | register user password =>
      have refused : UserId.check user = .error malformation := malformed
      simp only [activity, register, outcome_bind, outcome_demand, refused]
  | login presented =>
      have refused : presented.credentials = .error malformation := by
        rw [Call.about] at malformed
        cases read : presented.credentials with
        | ok credentials => simp [read] at malformed
        | error other => simpa [read] using malformed
      simp only [activity, login, outcome_bind, outcome_demand, refused]
  | logout user =>
      have refused : UserId.check user = .error malformation := malformed
      simp only [activity, logout, outcome_bind, outcome_demand, refused]
  | isLoggedIn user =>
      have refused : UserId.check user = .error malformation := malformed
      simp only [activity, isLoggedIn, outcome_bind, outcome_demand, refused]
  | accessSecret user =>
      have refused : UserId.check user = .error malformation := malformed
      simp only [activity, accessSecret, outcome_bind, outcome_demand, refused]

/-- A malformed call leaves a store as it is. -/
theorem act_of_malformed (s : Store) {call : Call} {malformation : Malformation}
    (malformed : call.about = .error malformation) :
    s.act (.call call) = ⟨.error (.malformed malformation), s, []⟩ :=
  perform_of_outcome s (outcome_of_malformed s.config s.salts malformed s.progress)

def record (message : String) : Event := .logged ⟨.info, logger, message⟩

/-- With defects, all but the entry of the hash is as without them. -/
theorem outcome_register_defective (user : String) (password : Password) (p : Progress) :
    (activity config salts (.register user password)).outcome p =
      match UserId.check user with
      | .error malformation => (.error (.malformed malformation), p)
      | .ok user =>
          let asked := p.noting (.invoked .getPassword)
          if p.backend.isArmed .getPassword then (.error FailPoint.getPassword.failure, asked)
          else
            match p.backend.memory.users.get? user with
            | some _ => (.error (.refused (.alreadyRegistered user)), asked)
            | none =>
                let drawn := { asked with draws := p.draws + 1 }.noting (.drewSalt (p.draws + 1))
                match password.hash (salts.draw (p.draws + 1) config.saltBytes)
                    config.hashIterations with
                | .error fault => (.error (.hashing fault), drawn)
                | .ok hash =>
                    let entered := drawn.noting (.invoked .register)
                    if p.backend.isArmed .register then
                      (.error FailPoint.register.failure, entered)
                    else
                      match p.backend.defects.register p.backend.memory user hash with
                      | .error refusal => (.error (.refused refusal), entered)
                      | .ok memory =>
                          (.ok .done, (entered.withMemory memory).noting
                            (record ("registered user " ++ user))) := by
  simp only [activity, register, outcome_bind, outcome_demand]
  cases UserId.check user with
  | error malformation => rfl
  | ok user =>
      simp only [outcome_getPassword]
      cases p.backend.isArmed .getPassword with
      | true => rfl
      | false =>
          simp only [Bool.false_eq_true, if_false]
          cases p.backend.memory.users.get? user with
          | some stored => rfl
          | none =>
              simp only [outcome_bind, outcome_hashPassword, Progress.noting_draws]
              cases password.hash (salts.draw (p.draws + 1) config.saltBytes)
                  config.hashIterations with
              | error fault => rfl
              | ok hash =>
                  dsimp only
                  rw [Backend.outcome_register_defective user hash
                    (show _ = p.backend.defects.register p.backend.memory user hash by exact rfl)]
                  by_cases armed : p.backend.isArmed .register = true
                  · rw [if_pos armed, if_pos (by exact armed)]
                  · rw [if_neg armed, if_neg (by exact armed)]
                    cases p.backend.defects.register p.backend.memory user hash with
                    | error refusal => rfl
                    | ok memory => rfl

theorem outcome_register (sound : p.backend.defects = .none) (user : String)
    (password : Password) :
    (activity config salts (.register user password)).outcome p =
      match UserId.check user with
      | .error malformation => (.error (.malformed malformation), p)
      | .ok user =>
          let asked := p.noting (.invoked .getPassword)
          if p.backend.isArmed .getPassword then (.error FailPoint.getPassword.failure, asked)
          else
            match p.backend.memory.users.get? user with
            | some _ => (.error (.refused (.alreadyRegistered user)), asked)
            | none =>
                let drawn := { asked with draws := p.draws + 1 }.noting (.drewSalt (p.draws + 1))
                match password.hash (salts.draw (p.draws + 1) config.saltBytes)
                    config.hashIterations with
                | .error fault => (.error (.hashing fault), drawn)
                | .ok hash =>
                    let entered := drawn.noting (.invoked .register)
                    if p.backend.isArmed .register then
                      (.error FailPoint.register.failure, entered)
                    else
                      (.ok .done,
                        (entered.withMemory { p.backend.memory with
                          users := p.backend.memory.users.insert user (.hashed hash) }).noting
                            (record ("registered user " ++ user))) := by
  simp only [outcome_register_defective, sound, Defects.register_none]

/-- With defects, all but the session is as without them. -/
theorem outcome_login_defective (presented : Presented) (p : Progress) :
    (activity config salts (.login presented)).outcome p =
      match presented.credentials with
      | .error malformation => (.error (.malformed malformation), p)
      | .ok credentials =>
          let asked := p.noting (.invoked .getPassword)
          if p.backend.isArmed .getPassword then (.error FailPoint.getPassword.failure, asked)
          else
            match p.backend.memory.users.get? credentials.user with
            | none =>
                (.ok (.flag false), asked.noting
                  (record ("login denied for " ++ credentials.user ++ ": " ++ "not registered")))
            | some stored =>
                match stored.matching credentials.password with
                | .error failure => (.error failure, asked)
                | .ok false =>
                    (.ok (.flag false), asked.noting
                      (record ("login denied for " ++ credentials.user ++ ": " ++
                        "wrong password")))
                | .ok true =>
                    let entered := asked.noting (.invoked .addSession)
                    if p.backend.isArmed .addSession then
                      (.error FailPoint.addSession.failure, entered)
                    else
                      (.ok (.flag true),
                        (entered.withMemory
                          (p.backend.defects.addSession p.backend.memory credentials.user)).noting
                            (record ("login succeeded for " ++ credentials.user))) := by
  simp only [activity, login, outcome_bind, outcome_demand]
  cases presented.credentials with
  | error malformation => rfl
  | ok credentials =>
      simp only [outcome_getPassword]
      cases p.backend.isArmed .getPassword with
      | true => rfl
      | false =>
          simp only [Bool.false_eq_true, if_false]
          cases p.backend.memory.users.get? credentials.user with
          | none => rfl
          | some stored =>
              simp only [outcome_bind, outcome_verify]
              cases stored.matching credentials.password with
              | error failure => rfl
              | ok matching =>
                  cases matching with
                  | false => rfl
                  | true =>
                      simp only [if_true, outcome_bind]
                      rw [outcome_addSession_defective]
                      by_cases armed : p.backend.isArmed .addSession = true
                      · rw [if_pos armed, if_pos (by exact armed)]
                      · rw [if_neg armed, if_neg (by exact armed)]
                        rfl

theorem outcome_login (sound : p.backend.defects = .none) (presented : Presented) :
    (activity config salts (.login presented)).outcome p =
      match presented.credentials with
      | .error malformation => (.error (.malformed malformation), p)
      | .ok credentials =>
          let asked := p.noting (.invoked .getPassword)
          if p.backend.isArmed .getPassword then (.error FailPoint.getPassword.failure, asked)
          else
            match p.backend.memory.users.get? credentials.user with
            | none =>
                (.ok (.flag false), asked.noting
                  (record ("login denied for " ++ credentials.user ++ ": " ++ "not registered")))
            | some stored =>
                match stored.matching credentials.password with
                | .error failure => (.error failure, asked)
                | .ok false =>
                    (.ok (.flag false), asked.noting
                      (record ("login denied for " ++ credentials.user ++ ": " ++
                        "wrong password")))
                | .ok true =>
                    let entered := asked.noting (.invoked .addSession)
                    if p.backend.isArmed .addSession then
                      (.error FailPoint.addSession.failure, entered)
                    else
                      (.ok (.flag true),
                        (entered.withMemory { p.backend.memory with
                          sessions := p.backend.memory.sessions.insert
                            credentials.user }).noting
                              (record ("login succeeded for " ++ credentials.user))) := by
  simp only [outcome_login_defective, sound, Defects.addSession_none]

theorem outcome_logout (sound : p.backend.defects = .none) (user : String) :
    (activity config salts (.logout user)).outcome p =
      match UserId.check user with
      | .error malformation => (.error (.malformed malformation), p)
      | .ok user =>
          let asked := p.noting (.invoked .removeSession)
          if p.backend.isArmed .removeSession then (.error FailPoint.removeSession.failure, asked)
          else
            (.ok .done,
              (asked.withMemory { p.backend.memory with
                sessions := p.backend.memory.sessions.erase user }).noting
                  (record ("logged out " ++ user))) := by
  simp only [activity, logout, outcome_bind, outcome_demand]
  cases UserId.check user with
  | error malformation => rfl
  | ok user =>
      simp only [outcome_removeSession user sound]
      cases p.backend.isArmed .removeSession with
      | true => rfl
      | false => rfl

theorem outcome_isLoggedIn (sound : p.backend.defects = .none) (user : String) :
    (activity config salts (.isLoggedIn user)).outcome p =
      match UserId.check user with
      | .error malformation => (.error (.malformed malformation), p)
      | .ok user =>
          let asked := p.noting (.invoked .hasSession)
          if p.backend.isArmed .hasSession then (.error FailPoint.hasSession.failure, asked)
          else (.ok (.flag (decide (user ∈ p.backend.memory.sessions))), asked) := by
  simp only [activity, isLoggedIn, outcome_bind, outcome_demand]
  cases UserId.check user with
  | error malformation => rfl
  | ok user =>
      simp only [outcome_hasSession user sound]
      cases p.backend.isArmed .hasSession with
      | true => rfl
      | false => rfl

theorem outcome_accessSecret (sound : p.backend.defects = .none) (user : String) :
    (activity config salts (.accessSecret user)).outcome p =
      match UserId.check user with
      | .error malformation => (.error (.malformed malformation), p)
      | .ok user =>
          let asked := p.noting (.invoked .hasSession)
          if p.backend.isArmed .hasSession then (.error FailPoint.hasSession.failure, asked)
          else if user ∈ p.backend.memory.sessions then
            match Template.render config.secretTemplate user with
            | .error fault => (.error (.template fault), asked)
            | .ok message => (.ok (.secret ⟨user, message⟩), asked)
          else (.error (.refused (.notAuthenticated user)), asked) := by
  simp only [activity, accessSecret, outcome_bind, outcome_demand]
  cases UserId.check user with
  | error malformation => rfl
  | ok user =>
      simp only [outcome_hasSession user sound]
      cases p.backend.isArmed .hasSession with
      | true => rfl
      | false =>
          by_cases live : user ∈ p.backend.memory.sessions
          · simp only [live, decide_true]
            cases Template.render config.secretTemplate user with
            | error fault => rfl
            | ok message => rfl
          · simp only [live, decide_false]
            rfl

end Store

/-! ## Guards -/

namespace Backend

open Activity

theorem outcome_rearm (depth : Nat) (request : String)
    (change : Roster FailPoint → Roster FailPoint) (p : Progress) :
    (rearm depth request change).outcome p =
      match p.backend.updateGuard? depth change with
      | some backend => (.ok (), { p with backend })
      | none => (.error (.noFailPoints request), p) := by
  have unfolded : (rearm depth request change).outcome p =
      (match p.backend.updateGuard? depth change with
        | some backend => modify fun p => { p with backend }
        | none => stop (.noFailPoints request) : Activity Unit).outcome p := rfl
  rw [unfolded]
  cases p.backend.updateGuard? depth change with
  | some backend => rfl
  | none => rfl

theorem outcome_arm (depth : Nat) (point : FailPoint) (p : Progress) :
    (arm depth point.name).outcome p =
      match p.backend.updateGuard? depth (·.insert point) with
      | some backend =>
          (.ok (), { p with backend }.noting
            (.logged ⟨.debug, "backends", "arming fail point " ++ point.name⟩))
      | none => (.error (.noFailPoints "arm"), p) := by
  rw [arm, FailPoint.ofName?_name]
  simp only [outcome_bind, outcome_rearm]
  cases p.backend.updateGuard? depth (·.insert point) with
  | some backend => rfl
  | none => rfl

end Backend

end Gatekeeper
