import Gatekeeper.Proofs.Simulation.Admission
import Gatekeeper.Proofs.Simulation.Replay
import Gatekeeper.Proofs.Store.Login

/-!
# What the logins of a simulation come to

A login of a simulation names no password: both sides are asked with the one that the oracle
keeps, or with another one.  After any operations the store has a hash of the password that the
oracle keeps, so the right login is granted to everybody who is registered and the wrong one to
nobody, unless a fail point on the way is armed.  No login depends on the sessions, which could
come apart on the two sides if two passwords had the same derived key; so they are left out of
what is kept.
-/

namespace Gatekeeper

open Run

/-! ## The oracle -/

namespace Oracle

/-- What becomes of the users and the fail points of an oracle depends on these alone. -/
theorem ask_congr {o o' : Oracle} (users : o'.users = o.users) (armed : o'.armed = o.armed)
    (question : Question) :
    (o'.ask question).2.users = (o.ask question).2.users ∧
      (o'.ask question).2.armed = (o.ask question).2.armed := by
  have kept (registers : ∀ user password, question ≠ .register user password)
      (arms : ∀ name, question ≠ .arm name) :
      (o'.ask question).2.users = (o.ask question).2.users ∧
        (o'.ask question).2.armed = (o.ask question).2.armed := by
    have before := o.ask_keeps registers arms
    have before' := o'.ask_keeps registers arms
    exact ⟨by rw [before.1, before'.1, users], by rw [before.2, before'.2, armed]⟩
  cases question with
  | login line | logout user | accessSecret user => exact kept nofun nofun
  | register user password =>
      obtain ⟨template, users, sessions, armed⟩ := o
      obtain ⟨template', users', sessions', armed'⟩ := o'
      cases users
      cases armed
      rw [ask_register, ask_register]
      dsimp only
      repeat' split
      all_goals exact ⟨rfl, rfl⟩
  | arm name =>
      rw [ask, ask, answer, answer, arm, arm]
      cases FailPoint.ofName? name with
      | none => exact ⟨users, armed⟩
      | some point => exact ⟨users, congrArg (·.insert point) armed⟩

end Oracle

namespace Store

/-- A name of no fail point arms none. -/
theorem act_arm_unknown (s : Store) {name : String} (unknown : FailPoint.ofName? name = none) :
    (s.acted (.arm name)).backend = s.backend ∧
      ∃ failure, Outcome.ofResult (s.act (.arm name)).result = .error failure := by
  have left : s.progress.backend.updateGuard? 0 id = some s.backend ∨
      s.progress.backend.updateGuard? 0 id = none := by
    rw [Backend.updateGuard?]
    split
    · exact .inl (by simp [progress])
    · exact .inr rfl
  have armed : (Backend.arm 0 name).outcome s.progress =
      ((Backend.rearm 0 "arm" id >>= fun _ =>
        Activity.stop (.unknownFailPoint name) : Activity Unit)).outcome s.progress := by
    rw [Backend.arm, unknown]
  rw [Activity.outcome_bind, Backend.outcome_rearm] at armed
  rcases left with same | none
  · rw [same] at armed
    rw [acted, act, run_eq, armed]
    exact ⟨rfl, _, rfl⟩
  · rw [none] at armed
    rw [acted, act, run_eq, armed]
    exact ⟨rfl, _, rfl⟩

end Store

namespace Lockstep

variable {config : Config} {l : Lockstep} {user password : String}

/-! ## What is kept -/

/-- The two sides know the same users with the same passwords, and the same is armed on them. -/
structure Tallies (config : Config) (l : Lockstep) : Prop where
  config_eq : l.store.config = config
  defects : l.store.backend.defects = .none
  guards : l.store.backend.guards = [l.oracle.armed]
  users : l.store.backend.memory.users.keys = l.oracle.users.keys
  hashes : ∀ user password, l.oracle.passwordOf? user = some password →
    ∃ salt, l.store.backend.memory.users.get? user =
      some (.hashed (.compose config.hashIterations salt
        (Password.key ⟨password⟩ salt config.hashIterations)))

/-- The two sides with the sessions and the template of the store on both. -/
def levelled (l : Lockstep) : Lockstep :=
  ⟨l.store, { l.oracle with
    template := l.store.config.secretTemplate
    sessions := l.store.backend.memory.sessions }⟩

theorem Tallies.levelled (tallies : Tallies config l) : Aligned config l.levelled where
  config_eq := tallies.config_eq
  template := congrArg Config.secretTemplate tallies.config_eq
  defects := tallies.defects
  guards := tallies.guards
  users := tallies.users
  sessions := rfl
  hashes := tallies.hashes

theorem Aligned.tallies (aligned : Aligned config l) : Tallies config l :=
  ⟨aligned.config_eq, aligned.defects, aligned.guards, aligned.users, aligned.hashes⟩

theorem Tallies.congr (tallies : Tallies config l) {l' : Lockstep}
    (config_eq : l'.store.config = l.store.config)
    (defects : l'.store.backend.defects = .none)
    (guards : l'.store.backend.guards = l.store.backend.guards)
    (hashes : l'.store.backend.memory.users = l.store.backend.memory.users)
    (users : l'.oracle.users = l.oracle.users) (armed : l'.oracle.armed = l.oracle.armed) :
    Tallies config l' where
  config_eq := config_eq.trans tallies.config_eq
  defects := defects
  guards := by rw [guards, armed, tallies.guards]
  users := by rw [hashes, users, tallies.users]
  hashes := by
    intro user password known
    rw [Oracle.passwordOf?, users] at known
    rw [hashes]
    exact tallies.hashes user password known

/-- The oracle is asked if the store has an outcome. -/
theorem oracle_posed (l : Lockstep) (question : Oracle.Question) :
    (l.posed question).oracle =
      if (Outcome.ofResult (l.store.act question.action).result).isOk then
        (l.oracle.ask question).2
      else l.oracle := by
  rw [posed]
  cases acted : Outcome.ofResult (l.store.act question.action).result with
  | error failure =>
      rw [pose_of_error acted]
      rfl
  | ok actual =>
      rw [pose_of_ok acted]
      rfl

theorem posed_levelled (l : Lockstep) (question : Oracle.Question) :
    (l.posed question).store = (l.levelled.posed question).store ∧
      (l.posed question).oracle.users = (l.levelled.posed question).oracle.users ∧
      (l.posed question).oracle.armed = (l.levelled.posed question).oracle.armed := by
  have asked := @Oracle.ask_congr l.levelled.oracle l.oracle rfl rfl question
  have store := store_pose l question
  have store' := store_pose l.levelled question
  refine ⟨store.trans store'.symm, ?_⟩
  rw [oracle_posed, oracle_posed]
  split
  · rw [if_pos (by assumption)]
    exact asked
  · rw [if_neg (by assumption)]
    exact ⟨rfl, rfl⟩

/-- A question whose outcome is the same on both sides keeps the two sides in tally. -/
theorem Tallies.of_matches {question : Oracle.Question}
    (same : Matches config l.levelled question) : Tallies config (l.posed question) := by
  obtain ⟨outcome, -, aligned⟩ := same
  obtain ⟨store, users, armed⟩ := l.posed_levelled question
  refine aligned.tallies.congr ?_ ?_ ?_ ?_ users armed
  · rw [store, posed]
  · rw [store, posed, aligned.defects]
  · rw [store, posed]
  · rw [store, posed]

/-- So does a call that registers nobody. -/
theorem Tallies.of_call (tallies : Tallies config l) {question : Oracle.Question} {call : Call}
    (called : question.action = .call call)
    (registers : ∀ user password, question ≠ .register user password) :
    Tallies config (l.posed question) := by
  have store : (l.posed question).store = l.store.acted (.call call) := by
    rw [← called]
    exact store_pose l question
  have arms : ∀ name, question ≠ .arm name := by
    rintro name rfl
    cases called
  have kept := l.oracle.ask_keeps registers arms
  refine tallies.congr ?_ ?_ ?_ ?_ ?_ ?_
  · rw [store, Store.acted_config]
  · rw [store]
    exact Store.act_defects tallies.defects _
  · rw [store, Store.guards_acted_of_call tallies.defects]
  · rw [store]
    rcases Store.users_acted_cases tallies.defects (.call call) with ⟨same, -⟩ |
      ⟨user, password, -, -, ⟨registered, -⟩, -⟩
    · exact same
    · have asked : question.action = .call (.register user password) := called.trans registered
      cases question with
      | register user password => exact absurd rfl (registers user password)
      | login line | logout user | accessSecret user | arm name => cases asked
  · rw [oracle_posed]
    split
    · exact kept.1
    · rfl
  · rw [oracle_posed]
    split
    · exact kept.2
    · rfl

theorem Tallies.posed (tallies : Tallies config l)
    (bound : config.hashIterations ≤ Hash.Pbkdf2.maxIterations) (question : Oracle.Question) :
    Tallies config (l.posed question) := by
  -- The two outcomes of a login or of an access need not be the same here, as the sessions may have
  -- come apart, but neither call touches what is in tally.
  cases question with
  | register user password => exact .of_matches (matches_register tallies.levelled bound _ _)
  | login line => exact tallies.of_call rfl nofun
  | logout user => exact tallies.of_call rfl nofun
  | accessSecret user => exact tallies.of_call rfl nofun
  | arm name =>
      cases known : FailPoint.ofName? name with
      | some point =>
          rw [← FailPoint.name_of_ofName? known]
          exact .of_matches (matches_arm tallies.levelled point)
      | none =>
          obtain ⟨backend, failure, failed⟩ := l.store.act_arm_unknown known
          have left : l.posed (.arm name) = ⟨l.store.acted (.arm name), l.oracle⟩ :=
            congrArg Prod.snd (pose_of_error failed)
          refine tallies.congr ?_ ?_ ?_ ?_ ?_ ?_ <;> rw [left]
          · exact Store.acted_config _ _
          · exact Store.act_defects tallies.defects _
          · rw [backend]
          · rw [backend]

theorem Tallies.start (config : Config) (salts : SaltSource) :
    Tallies config (guarded config salts) := (Aligned.start config salts).tallies

/-- The two sides are in tally after any operations, also those that fail. -/
theorem tallies_run (config : Config) (salts : SaltSource)
    (bound : config.hashIterations ≤ Hash.Pbkdf2.maxIterations) (ops : List Operation) :
    Tallies config (ops.foldl applied (guarded config salts)) :=
  states_induction (Tallies config) (fun l op tallies => tallies.posed bound (l.question op))
    (.start config salts) ops _ (foldl_mem_states _ ops)

/-! ## Logins -/

theorem parse_loginLine (formed : UserId.WellFormed user) (password : String) :
    Credentials.parse (loginLine user password) = .ok ⟨user, ⟨password⟩⟩ := by
  have parts : (loginLine user password).toList =
      user.toList ++ separator :: password.toList := by
    simp [loginLine]
  rw [Credentials.parse_of_plain
    (Credentials.plain_of_separator_mem (separator_mem_loginLine user password)), parts,
    Credentials.ofPlainLine_append formed, String.ofList_toList]

def Ends (l : Lockstep) (op : Operation) (outcome : Outcome) : Prop :=
  (l.apply op).1 = .ok ⟨outcome, outcome⟩

def KeepsSessions (l : Lockstep) (op : Operation) : Prop :=
  (l.applied op).store.backend.memory.sessions = l.store.backend.memory.sessions ∧
    (l.applied op).oracle.sessions = l.oracle.sessions

def OpensSession (l : Lockstep) (op : Operation) (user : String) : Prop :=
  (l.applied op).store.backend.memory.sessions =
      l.store.backend.memory.sessions.insert user ∧
    (l.applied op).oracle.sessions = l.oracle.sessions.insert user

/-- Where both sides have one outcome, it is the oracle's, and the sessions of each side change as
the oracle changes them. -/
theorem ends_of_matches {op : Operation} (same : Matches config l.levelled (l.question op))
    (answer : Except Failure Value) (after : Oracle → Oracle) {outcome : Outcome}
    (asked : ∀ o : Oracle, o.users = l.oracle.users → o.armed = l.oracle.armed →
      o.ask (l.question op) = (answer, after o))
    (expected : Outcome.ofResult answer = .ok outcome) :
    l.Ends op outcome ∧
      (l.applied op).store.backend.memory.sessions = (after l.levelled.oracle).sessions ∧
      (l.applied op).oracle.sessions = (after l.oracle).sessions := by
  obtain ⟨outcome', agree, aligned⟩ := same
  rw [Ends, applied, apply]
  cases acted : Outcome.ofResult (l.store.act (l.question op).action).result with
  | error failure =>
      rw [pose_of_error (l := l.levelled) acted] at agree
      cases agree
  | ok actual =>
      rw [pose_of_ok (l := l.levelled) acted, asked l.levelled.oracle rfl rfl, expected]
        at agree aligned
      rw [pose_of_ok acted, asked l.oracle rfl rfl, expected]
      obtain ⟨rfl, rfl⟩ := Outcomes.mk.inj (Except.ok.inj agree)
      exact ⟨rfl, aligned.sessions, rfl⟩

/-- A login ends on both sides as the oracle has it, if hashing tells the password that is tried
from another one. -/
theorem login_ends (op : Operation) (tallies : Tallies config l)
    (bound : config.hashIterations ≤ Hash.Pbkdf2.maxIterations) (formed : UserId.WellFormed user)
    (asks : l.question op = .login (loginLine user password))
    (discerns : l.Discerns (l.question op)) :
    (.getPassword ∈ l.oracle.armed → l.Ends op (.refused .storage) ∧ l.KeepsSessions op) ∧
    (.getPassword ∉ l.oracle.armed → l.oracle.passwordOf? user ≠ some password →
      l.Ends op (.value (.flag false)) ∧ l.KeepsSessions op) ∧
    (.getPassword ∉ l.oracle.armed → l.oracle.passwordOf? user = some password →
      (.addSession ∈ l.oracle.armed → l.Ends op (.refused .storage) ∧ l.KeepsSessions op) ∧
      (.addSession ∉ l.oracle.armed →
        l.Ends op (.value (.flag true)) ∧ l.OpensSession op user)) := by
  have plain := Credentials.plain_of_separator_mem (separator_mem_loginLine user password)
  have parsed := parse_loginLine formed password
  have same : Matches config l.levelled (l.question op) := by
    rw [asks] at discerns ⊢
    exact matches_login tallies.levelled bound plain discerns
  have known (o : Oracle) (users : o.users = l.oracle.users) :
      o.passwordOf? user = l.oracle.passwordOf? user := congrArg (·.get? user) users
  refine ⟨fun asking => ?_, fun asking other => ?_, fun asking right => ⟨fun entering => ?_,
    fun entering => ?_⟩⟩
  · refine ends_of_matches same (.error FailPoint.getPassword.failure) (fun o => o)
      (fun o users armed => ?_) rfl
    rw [asks, Oracle.ask_login_of_ok o plain parsed, armed, if_pos asking]
  · refine ends_of_matches same (.ok (.flag false)) (fun o => o) (fun o users armed => ?_) rfl
    rw [asks, Oracle.ask_login_of_ok o plain parsed, armed, if_neg asking, known o users,
      if_neg other]
  · refine ends_of_matches same (.error FailPoint.addSession.failure) (fun o => o)
      (fun o users armed => ?_) rfl
    rw [asks, Oracle.ask_login_of_ok o plain parsed, armed, if_neg asking, known o users,
      if_pos right, if_pos entering]
  · refine ends_of_matches same (.ok (.flag true))
      (fun o => { o with sessions := o.sessions.insert user }) (fun o users armed => ?_) rfl
    rw [asks, Oracle.ask_login_of_ok o plain parsed, armed, if_neg asking, known o users,
      if_pos right, if_neg entering]

/-! ## The two logins -/

theorem mem_users_iff : user ∈ l.oracle.users ↔
    l.oracle.passwordOf? user = some (l.passwordFor user) := by
  rw [passwordFor, Oracle.passwordOf?, ← Directory.get?_isSome_iff]
  cases l.oracle.users.get? user <;> simp

/-- The wrong password is another one than the oracle keeps. -/
theorem passwordOf?_ne_wrong :
    l.oracle.passwordOf? user ≠ some (l.passwordFor user ++ wrongSuffix) := by
  cases known : l.oracle.passwordOf? user with
  | none => nofun
  | some kept =>
      rw [passwordFor, known, Option.getD_some, ne_eq, Option.some.injEq]
      intro same
      have longer := congrArg String.length same
      rw [String.length_append] at longer
      have suffix : wrongSuffix.length = 6 := by decide
      omega

theorem discerns_right (formed : UserId.WellFormed user) :
    l.Discerns (l.question (.loginRight user)) := by
  have parsed := parse_loginLine formed (l.passwordFor user)
  cases known : l.oracle.passwordOf? user with
  | none => simp [question, Discerns, parsed, known]
  | some kept =>
      have right : l.passwordFor user = kept := by rw [passwordFor, known, Option.getD_some]
      rw [right] at parsed
      simp only [question, right, Discerns, parsed, known]
      by_cases asking : .getPassword ∈ l.oracle.armed
      · rw [if_pos asking]
        trivial
      · rw [if_neg asking]
        cases l.store.backend.memory.users.get? user with
        | none => trivial
        | some stored =>
            cases stored with
            | bare text => trivial
            | hashed hash =>
                dsimp only
                cases hash.fields with
                | error fault => trivial
                | ok fields => exact fun other => absurd rfl other

/-- After any operations, and whatever is armed by then, the wrong login of a user is denied unless
a fail point keeps the store from looking the user up, and the right login is granted exactly if
the user is registered and no fail point is in the way. -/
theorem logins_as_named (config : Config) (salts : SaltSource)
    (bound : config.hashIterations ≤ Hash.Pbkdf2.maxIterations) (ops : List Operation)
    {user : String} (formed : UserId.WellFormed user) :
    let l := ops.foldl applied (guarded config salts)
    (∀ point, l.store.backend.isArmed point = true ↔ point ∈ l.oracle.armed) ∧
    (user ∈ l.store.backend.memory.users ↔ user ∈ l.oracle.users) ∧
    (l.Discerns (l.question (.loginWrong user)) → l.KeepsSessions (.loginWrong user) ∧
      l.Ends (.loginWrong user)
        (if .getPassword ∈ l.oracle.armed then .refused .storage else .value (.flag false))) ∧
    (user ∈ l.oracle.users ∧ .getPassword ∉ l.oracle.armed ∧ .addSession ∉ l.oracle.armed →
      l.Ends (.loginRight user) (.value (.flag true)) ∧ l.OpensSession (.loginRight user) user) ∧
    (¬(user ∈ l.oracle.users ∧ .getPassword ∉ l.oracle.armed ∧ .addSession ∉ l.oracle.armed) →
      l.KeepsSessions (.loginRight user) ∧
      l.Ends (.loginRight user)
        (if user ∉ l.oracle.users ∧ .getPassword ∉ l.oracle.armed then .value (.flag false)
        else .refused .storage)) := by
  intro l
  have tallies := tallies_run config salts bound ops
  have wrong := login_ends (.loginWrong user) tallies bound formed rfl
  have right := login_ends (.loginRight user) tallies bound formed rfl (discerns_right formed)
  refine ⟨tallies.levelled.isArmed_iff, ?_, fun discerns => ?_, ?_, fun hindered => ?_⟩
  · rw [Directory.mem_def, Directory.mem_def, tallies.users]
  · by_cases asking : .getPassword ∈ l.oracle.armed
    · rw [if_pos asking]
      exact ((wrong discerns).1 asking).symm
    · rw [if_neg asking]
      exact ((wrong discerns).2.1 asking passwordOf?_ne_wrong).symm
  · rintro ⟨registered, asking, entering⟩
    exact (right.2.2 asking (mem_users_iff.mp registered)).2 entering
  · by_cases asking : .getPassword ∈ l.oracle.armed
    · rw [if_neg fun unhindered => unhindered.2 asking]
      exact (right.1 asking).symm
    · by_cases registered : user ∈ l.oracle.users
      · have entering : .addSession ∈ l.oracle.armed :=
          Decidable.byContradiction fun unarmed => hindered ⟨registered, asking, unarmed⟩
        rw [if_neg fun unhindered => unhindered.1 registered]
        exact ((right.2.2 asking (mem_users_iff.mp registered)).1 entering).symm
      · rw [if_pos ⟨registered, asking⟩]
        exact (right.2.1 asking fun known => registered (mem_users_iff.mpr known)).symm

/-- A user with the separator in the password. -/
theorem logins_as_named_marked :
    let l := [Operation.register "Bob" "a:b"].foldl applied (guarded quick .counter)
    l.Discerns (l.question (.loginWrong "Bob")) ∧
      l.Ends (.loginWrong "Bob") (.value (.flag false)) ∧
      l.Ends (.loginRight "Bob") (.value (.flag true)) ∧
      l.OpensSession (.loginRight "Bob") "Bob" := by
  have facts : let l := [Operation.register "Bob" "a:b"].foldl applied (guarded quick .counter)
      l.Discerns (l.question (.loginWrong "Bob")) ∧ "Bob" ∈ l.oracle.users ∧
        .getPassword ∉ l.oracle.armed ∧ .addSession ∉ l.oracle.armed := by
    decide +kernel
  have named := logins_as_named quick .counter (by decide) [.register "Bob" "a:b"]
    (show UserId.WellFormed "Bob" by decide)
  -- Otherwise the state that is reached would be computed.
  generalize [Operation.register "Bob" "a:b"].foldl applied (guarded quick .counter) = l
    at facts named ⊢
  obtain ⟨discerns, registered, asking, entering⟩ := facts
  obtain ⟨-, -, wrong, right, -⟩ := named
  have denied := (wrong discerns).2
  rw [if_neg asking] at denied
  exact ⟨discerns, denied, right ⟨registered, asking, entering⟩⟩

end Lockstep

end Gatekeeper
