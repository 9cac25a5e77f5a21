import Gatekeeper.Proofs.Password.Format
import Gatekeeper.Proofs.Simulation.Oracle
import Gatekeeper.Proofs.Store.Call
import Gatekeeper.Simulation.Lockstep

/-!
# A store that is aligned with an oracle

The two sides know the same users, sessions and armed fail points, and the store
keeps a hash of exactly the password that the oracle keeps.  Each question keeps
them aligned and has one outcome on both sides, whatever is armed, as long as
hashing tells the password that is tried from the one that was registered.
-/

namespace Gatekeeper

namespace Lockstep

/-! ## What is asked of a question -/

/-- A question that the oracle and the store read alike, and that the template does not fail on. -/
def Admissible (config : Config) : Oracle.Question → Prop
  | .register _ _ => True
  | .login line => Credentials.Plain line
  | .logout _ => True
  | .accessSecret user => ∃ message, Template.render config.secretTemplate user = .ok message
  | .arm name => ∃ point : FailPoint, name = point.name

/-- If a login comes to try another password than the one that its user registered, which only
the oracle still knows, then the two have different derived keys under the salt of the hash. -/
def Discerns (l : Lockstep) : Oracle.Question → Prop
  | .login line =>
      if .getPassword ∈ l.oracle.armed then True
      else
        match Credentials.parse line with
        | .error _ => True
        | .ok ⟨user, tried⟩ =>
            match l.oracle.passwordOf? user, l.store.backend.memory.users.get? user with
            | some kept, some (.hashed hash) =>
                match hash.fields with
                | .error _ => True
                | .ok fields =>
                    tried ≠ ⟨kept⟩ →
                      tried.key fields.salt fields.iterations.toNat ≠
                        Password.key ⟨kept⟩ fields.salt fields.iterations.toNat
            | _, _ => True
  | _ => True

instance (l : Lockstep) (question : Oracle.Question) : Decidable (l.Discerns question) := by
  unfold Discerns
  repeat' split
  all_goals infer_instance

/-! ## The relation -/

structure InStep (l : Lockstep) : Prop where
  users : l.store.backend.memory.users.keys = l.oracle.users.keys
  sessions : l.store.backend.memory.sessions = l.oracle.sessions
  armed : l.store.backend.armed? = some l.oracle.armed

/-- The store has one guard, no defects, and hashes of the passwords of the oracle. -/
structure Aligned (config : Config) (l : Lockstep) : Prop where
  config_eq : l.store.config = config
  template : l.oracle.template = config.secretTemplate
  defects : l.store.backend.defects = .none
  guards : l.store.backend.guards = [l.oracle.armed]
  users : l.store.backend.memory.users.keys = l.oracle.users.keys
  sessions : l.store.backend.memory.sessions = l.oracle.sessions
  hashes : ∀ user password, l.oracle.passwordOf? user = some password →
    ∃ salt, l.store.backend.memory.users.get? user =
      some (.hashed (.compose config.hashIterations salt
        (Password.key ⟨password⟩ salt config.hashIterations)))

def Matches (config : Config) (l : Lockstep) (question : Oracle.Question) : Prop :=
  ∃ outcome, (l.pose question).1 = .ok ⟨outcome, outcome⟩ ∧ Aligned config (l.pose question).2

namespace Aligned

variable {config : Config} {l : Lockstep}

theorem inStep (aligned : Aligned config l) : l.InStep where
  users := aligned.users
  sessions := aligned.sessions
  armed := by rw [Backend.armed?, aligned.guards, List.head?_cons]

theorem start (config : Config) (salts : SaltSource) :
    Aligned config (Lockstep.start { config, salts, backend := .guarded }) where
  config_eq := rfl
  template := rfl
  defects := rfl
  guards := rfl
  users := rfl
  sessions := rfl
  hashes := by
    intro user password known
    cases known

theorem isArmed_iff (aligned : Aligned config l) (point : FailPoint) :
    l.store.progress.backend.isArmed point = true ↔ point ∈ l.oracle.armed := by
  simp [Store.progress, Backend.isArmed, aligned.guards]

theorem get?_eq_none_iff (aligned : Aligned config l) (user : String) :
    l.store.progress.backend.memory.users.get? user = none ↔ user ∉ l.oracle.users := by
  rw [Directory.get?_eq_none_iff, Directory.mem_def, Directory.mem_def, ← aligned.users]
  rfl

/-- Draws, and what is noted on the way, do not matter to either side. -/
theorem of_backend_eq (aligned : Aligned config l) {p : Progress}
    (kept : p.backend = l.store.backend) :
    Aligned config ⟨l.store.continued p, l.oracle⟩ := by
  obtain ⟨backend, draws, events⟩ := p
  cases kept
  exact ⟨aligned.config_eq, aligned.template, aligned.defects, aligned.guards, aligned.users,
    aligned.sessions, aligned.hashes⟩

/-- Sessions that change alike on both sides. -/
theorem with_sessions (aligned : Aligned config l) {p : Progress} (sessions : Roster String)
    (changed : p.backend = { l.store.backend with
      memory := { l.store.backend.memory with sessions } }) :
    Aligned config ⟨l.store.continued p, { l.oracle with sessions }⟩ := by
  obtain ⟨backend, draws, events⟩ := p
  cases changed
  exact ⟨aligned.config_eq, aligned.template, aligned.defects, aligned.guards, aligned.users,
    rfl, aligned.hashes⟩

/-- A user who registers on both sides. -/
theorem with_user (aligned : Aligned config l) {p : Progress} (user password : String)
    (salt : List UInt8)
    (changed : p.backend = { l.store.backend with
      memory := { l.store.backend.memory with
        users := l.store.backend.memory.users.insert user
          (.hashed (.compose config.hashIterations salt
            (Password.key ⟨password⟩ salt config.hashIterations))) } }) :
    Aligned config
      ⟨l.store.continued p, { l.oracle with users := l.oracle.users.insert user password }⟩ := by
  obtain ⟨backend, draws, events⟩ := p
  cases changed
  refine ⟨aligned.config_eq, aligned.template, aligned.defects, aligned.guards, ?_,
    aligned.sessions, ?_⟩
  · show (l.store.backend.memory.users.insert user _).keys = (l.oracle.users.insert user _).keys
    rw [Directory.keys_insert, Directory.keys_insert, aligned.users]
  · intro other kept known
    show ∃ salt, (l.store.backend.memory.users.insert user _).get? other = _
    have known : (l.oracle.users.insert user password).get? other = some kept := known
    rw [Directory.get?_insert] at known ⊢
    by_cases same : user = other
    · rw [if_pos same, Option.some.injEq] at known
      cases known
      exact ⟨salt, if_pos same⟩
    · rw [if_neg same] at known ⊢
      exact aligned.hashes other kept known

end Aligned

/-! ## Both sides -/

section Pose

variable {l : Lockstep} {question : Oracle.Question}

theorem pose_of_error {failure : Failure}
    (failed : Outcome.ofResult (l.store.act question.action).result = .error failure) :
    l.pose question = (.error failure, ⟨(l.store.act question.action).store, l.oracle⟩) := by
  rw [pose, failed]

theorem pose_of_ok {actual : Outcome}
    (acted : Outcome.ofResult (l.store.act question.action).result = .ok actual) :
    l.pose question =
      ((Outcome.ofResult (l.oracle.ask question).1).map fun expected => ⟨actual, expected⟩,
        ⟨(l.store.act question.action).store, (l.oracle.ask question).2⟩) := by
  rw [pose, acted]
  dsimp only
  obtain ⟨answer, oracle⟩ := l.oracle.ask question
  dsimp only
  cases Outcome.ofResult answer with
  | error failure => rfl
  | ok expected => rfl

end Pose

/-! ## Steps -/

/-- A question is matched if both sides end with one outcome and stay aligned. -/
theorem matches_of_outcomes {config : Config} {l : Lockstep} {question : Oracle.Question}
    {call : Call} {result answer : Except Failure Value} {p : Progress} {o : Oracle}
    {outcome : Outcome} (before : Aligned config l) (called : question.action = .call call)
    (acted : (Store.activity config l.store.salts call).outcome l.store.progress = (result, p))
    (asked : l.oracle.ask question = (answer, o))
    (actual : Outcome.ofResult result = .ok outcome)
    (expected : Outcome.ofResult answer = .ok outcome)
    (after : Aligned config ⟨l.store.continued p, o⟩) : Matches config l question := by
  have posed : l.pose question = (.ok ⟨outcome, outcome⟩, ⟨l.store.continued p, o⟩) := by
    rw [pose, called, Store.act, Store.perform_eq, Store.run_eq, before.config_eq, acted]
    simp only [actual, asked, expected]
  refine ⟨outcome, ?_, ?_⟩
  · rw [posed]
  · rw [posed]
    exact after

variable {config : Config} {l : Lockstep}

theorem Aligned.matches_of_unchanged {question : Oracle.Question} {call : Call}
    {result answer : Except Failure Value} {p : Progress} {outcome : Outcome}
    (aligned : Aligned config l) (called : question.action = .call call)
    (acted : (Store.activity config l.store.salts call).outcome l.store.progress = (result, p))
    (asked : l.oracle.ask question = (answer, l.oracle))
    (actual : Outcome.ofResult result = .ok outcome)
    (expected : Outcome.ofResult answer = .ok outcome) (kept : p.backend = l.store.backend) :
    Matches config l question :=
  matches_of_outcomes aligned called acted asked actual expected (aligned.of_backend_eq kept)

theorem matches_register (aligned : Aligned config l)
    (bound : config.hashIterations ≤ Hash.Pbkdf2.maxIterations) (user password : String) :
    Matches config l (.register user password) := by
  have acted := Store.outcome_register config l.store.salts (p := l.store.progress)
    aligned.defects user ⟨password⟩
  have asked := Oracle.ask_register l.oracle user password
  by_cases wellFormed : UserId.WellFormed user
  · rw [UserId.check_of_wellFormed wellFormed] at acted
    rw [if_pos wellFormed] at asked
    by_cases asking : .getPassword ∈ l.oracle.armed
    · rw [if_pos asking] at asked
      simp only [if_pos ((aligned.isArmed_iff _).mpr asking)] at acted
      exact aligned.matches_of_unchanged rfl acted asked rfl rfl rfl
    · rw [if_neg asking] at asked
      simp only [if_neg (mt (aligned.isArmed_iff _).mp asking)] at acted
      by_cases taken : user ∈ l.oracle.users
      · rw [if_pos taken] at asked
        have known := mt (aligned.get?_eq_none_iff user).mp (not_not_intro taken)
        obtain ⟨stored, found⟩ := Option.ne_none_iff_exists'.mp known
        simp only [found] at acted
        exact aligned.matches_of_unchanged rfl acted asked rfl rfl rfl
      · rw [if_neg taken] at asked
        have absent := (aligned.get?_eq_none_iff user).mpr taken
        simp only [absent] at acted
        rw [Password.hash_eq _ _ config.iterations_pos bound] at acted
        by_cases entering : .register ∈ l.oracle.armed
        · rw [if_pos entering] at asked
          simp only [if_pos ((aligned.isArmed_iff _).mpr entering)] at acted
          exact aligned.matches_of_unchanged rfl acted asked rfl rfl rfl
        · rw [if_neg entering] at asked
          simp only [if_neg (mt (aligned.isArmed_iff _).mp entering)] at acted
          refine matches_of_outcomes aligned rfl acted asked rfl rfl ?_
          exact aligned.with_user user password _ rfl
  · obtain ⟨malformation, refused⟩ := UserId.exists_check_eq_error wellFormed
    rw [refused] at acted
    rw [if_neg wellFormed] at asked
    exact aligned.matches_of_unchanged rfl acted asked rfl rfl rfl

/-- The stored hash tells whether the password that is tried is the one that the oracle keeps. -/
theorem Aligned.matching_eq {line user kept : String} {tried : Password}
    (aligned : Aligned config l) (bound : config.hashIterations ≤ Hash.Pbkdf2.maxIterations)
    (discerns : l.Discerns (.login line)) (asking : .getPassword ∉ l.oracle.armed)
    (parsed : Credentials.parse line = .ok ⟨user, tried⟩)
    (known : l.oracle.passwordOf? user = some kept) :
    ∃ stored, l.store.progress.backend.memory.users.get? user = some stored ∧
      stored.matching tried = .ok (decide (kept = tried.text)) := by
  obtain ⟨salt, found⟩ := aligned.hashes user kept known
  refine ⟨_, found, ?_⟩
  have compared : tried.key salt config.hashIterations =
      Password.key ⟨kept⟩ salt config.hashIterations ↔ kept = tried.text := by
    constructor
    · intro same
      apply Classical.byContradiction
      intro differ
      simp only [Discerns, if_neg asking, parsed, known, found,
        PasswordHash.fields_compose bound, Int.toNat_natCast] at discerns
      refine discerns ?_ same
      intro equal
      exact differ (congrArg Password.text equal).symm
    · intro same
      rw [same]
  rw [Stored.matching, PasswordHash.verify_compose tried config.iterations_pos bound]
  simp only [compared]

theorem matches_login (aligned : Aligned config l)
    (bound : config.hashIterations ≤ Hash.Pbkdf2.maxIterations) {line : String}
    (plain : Credentials.Plain line) (discerns : l.Discerns (.login line)) :
    Matches config l (.login line) := by
  have acted := Store.outcome_login config l.store.salts (p := l.store.progress)
    aligned.defects (.line line)
  rw [Presented.credentials] at acted
  cases parsed : Credentials.parse line with
  | error malformation =>
      obtain ⟨text, asked⟩ := Oracle.ask_login_of_error l.oracle plain parsed
      rw [parsed] at acted
      exact aligned.matches_of_unchanged rfl acted asked rfl rfl rfl
  | ok credentials =>
      obtain ⟨user, tried⟩ := credentials
      have asked := Oracle.ask_login_of_ok l.oracle plain parsed
      rw [parsed] at acted
      by_cases asking : .getPassword ∈ l.oracle.armed
      · rw [if_pos asking] at asked
        simp only [if_pos ((aligned.isArmed_iff _).mpr asking)] at acted
        exact aligned.matches_of_unchanged rfl acted asked rfl rfl rfl
      · rw [if_neg asking] at asked
        simp only [if_neg (mt (aligned.isArmed_iff _).mp asking)] at acted
        cases known : l.oracle.passwordOf? user with
        | none =>
            have absent : l.store.progress.backend.memory.users.get? user = none :=
              (aligned.get?_eq_none_iff user).mpr (Directory.get?_eq_none_iff.mp known)
            simp only [absent] at acted
            rw [known, if_neg nofun] at asked
            exact aligned.matches_of_unchanged rfl acted asked rfl rfl rfl
        | some kept =>
            obtain ⟨stored, found, compared⟩ :=
              aligned.matching_eq bound discerns asking parsed known
            simp only [found, compared] at acted
            simp only [known, Option.some.injEq] at asked
            by_cases same : kept = tried.text
            · rw [if_pos same] at asked
              rw [decide_eq_true same] at acted
              by_cases entering : .addSession ∈ l.oracle.armed
              · rw [if_pos entering] at asked
                simp only [if_pos ((aligned.isArmed_iff _).mpr entering)] at acted
                exact aligned.matches_of_unchanged rfl acted asked rfl rfl rfl
              · rw [if_neg entering] at asked
                simp only [if_neg (mt (aligned.isArmed_iff _).mp entering)] at acted
                refine matches_of_outcomes aligned rfl acted asked rfl rfl ?_
                rw [← aligned.sessions]
                exact aligned.with_sessions _ rfl
            · rw [if_neg same] at asked
              rw [decide_eq_false same] at acted
              exact aligned.matches_of_unchanged rfl acted asked rfl rfl rfl

theorem matches_logout (aligned : Aligned config l) (user : String) :
    Matches config l (.logout user) := by
  have acted := Store.outcome_logout config l.store.salts (p := l.store.progress)
    aligned.defects user
  have asked := Oracle.ask_logout l.oracle user
  by_cases wellFormed : UserId.WellFormed user
  · rw [UserId.check_of_wellFormed wellFormed] at acted
    rw [if_pos wellFormed] at asked
    by_cases leaving : .removeSession ∈ l.oracle.armed
    · rw [if_pos leaving] at asked
      simp only [if_pos ((aligned.isArmed_iff _).mpr leaving)] at acted
      exact aligned.matches_of_unchanged rfl acted asked rfl rfl rfl
    · rw [if_neg leaving] at asked
      simp only [if_neg (mt (aligned.isArmed_iff _).mp leaving)] at acted
      refine matches_of_outcomes aligned rfl acted asked rfl rfl ?_
      rw [← aligned.sessions]
      exact aligned.with_sessions _ rfl
  · obtain ⟨malformation, refused⟩ := UserId.exists_check_eq_error wellFormed
    rw [refused] at acted
    rw [if_neg wellFormed] at asked
    exact aligned.matches_of_unchanged rfl acted asked rfl rfl rfl

theorem matches_accessSecret (aligned : Aligned config l) {user : String}
    (rendered : ∃ message, Template.render config.secretTemplate user = .ok message) :
    Matches config l (.accessSecret user) := by
  obtain ⟨message, rendered⟩ := rendered
  have acted := Store.outcome_accessSecret config l.store.salts (p := l.store.progress)
    aligned.defects user
  have asked := Oracle.ask_accessSecret l.oracle user
  rw [aligned.template, rendered] at asked
  by_cases wellFormed : UserId.WellFormed user
  · rw [UserId.check_of_wellFormed wellFormed] at acted
    rw [if_pos wellFormed] at asked
    by_cases asking : .hasSession ∈ l.oracle.armed
    · rw [if_pos asking] at asked
      simp only [if_pos ((aligned.isArmed_iff _).mpr asking)] at acted
      exact aligned.matches_of_unchanged rfl acted asked rfl rfl rfl
    · rw [if_neg asking] at asked
      simp only [if_neg (mt (aligned.isArmed_iff _).mp asking)] at acted
      by_cases live : user ∈ l.oracle.sessions
      · rw [if_pos live] at asked
        have live' : user ∈ l.store.progress.backend.memory.sessions := by
          rw [← aligned.sessions] at live
          exact live
        simp only [if_pos live', rendered] at acted
        exact aligned.matches_of_unchanged rfl acted asked rfl rfl rfl
      · rw [if_neg live] at asked
        have live' : user ∉ l.store.progress.backend.memory.sessions := by
          rw [← aligned.sessions] at live
          exact live
        simp only [if_neg live'] at acted
        exact aligned.matches_of_unchanged rfl acted asked rfl rfl rfl
  · obtain ⟨malformation, refused⟩ := UserId.exists_check_eq_error wellFormed
    rw [refused] at acted
    rw [if_neg wellFormed] at asked
    exact aligned.matches_of_unchanged rfl acted asked rfl rfl rfl

theorem matches_arm (aligned : Aligned config l) (point : FailPoint) :
    Matches config l (.arm point.name) := by
  have asked := Oracle.ask_arm l.oracle point
  have updated : l.store.progress.backend.updateGuard? 0 (·.insert point) =
      some { l.store.backend with guards := [l.oracle.armed.insert point] } := by
    simp [Backend.updateGuard?, Store.progress, aligned.guards]
  have posed : l.pose (.arm point.name) =
      (.ok ⟨.value .done, .value .done⟩,
        ⟨{ l.store with
          backend := { l.store.backend with guards := [l.oracle.armed.insert point] } },
          { l.oracle with armed := l.oracle.armed.insert point }⟩) := by
    rw [pose, Oracle.Question.action, Store.act, Store.run_eq, Backend.outcome_arm, updated, asked]
    rfl
  refine ⟨.value .done, ?_, ?_⟩
  · rw [posed]
  · rw [posed]
    exact ⟨aligned.config_eq, aligned.template, aligned.defects, rfl, aligned.users,
      aligned.sessions, aligned.hashes⟩

theorem matches_of_admissible (aligned : Aligned config l)
    (bound : config.hashIterations ≤ Hash.Pbkdf2.maxIterations) {question : Oracle.Question}
    (admissible : Admissible config question) (discerns : l.Discerns question) :
    Matches config l question := by
  cases question with
  | register user password => exact matches_register aligned bound user password
  | login line => exact matches_login aligned bound admissible discerns
  | logout user => exact matches_logout aligned user
  | accessSecret user => exact matches_accessSecret aligned admissible
  | arm name =>
      obtain ⟨point, rfl⟩ := admissible
      exact matches_arm aligned point

end Lockstep

end Gatekeeper
