import Gatekeeper.Proofs.Store.Reachable
import Gatekeeper.Proofs.Template.Render

/-!
# What the history of a store says about its sessions

A history is what was done to a store from the beginning, each action with the store
that it found.  A user has a session exactly if some login of the user is followed by
no logout; and every login shows the password, or one with the same derived key, of
the one registration of the user that came before.
-/

namespace Gatekeeper

open Run

namespace Store

/-! ## Stages -/

abbrev Stage := Store × Action

namespace Stage

def result (stage : Stage) : Except Failure Value := (stage.1.act stage.2).result

def memory (stage : Stage) : Memory := (stage.1.acted stage.2).backend.memory

def Registers (stage : Stage) (user : String) (password : Password) : Prop :=
  stage.2 = .call (.register user password) ∧ stage.result = .ok .done

def LogsIn (stage : Stage) (user : String) (tried : Password) : Prop :=
  ∃ presented, stage.2 = .call (.login presented) ∧ presented.credentials = .ok ⟨user, tried⟩ ∧
    stage.result = .ok (.flag true)

def LogsOut (stage : Stage) (user : String) : Prop :=
  stage.2 = .call (.logout user) ∧ stage.result = .ok .done

end Stage

/-! ## Steps -/

section Effects

variable {config : Config} {salts : SaltSource} {p p' : Progress} {call : Call}
  {result : Except Failure Value}

theorem Effect.mem_sessions_iff (effect : Effect config salts p call result p') (user : String) :
    user ∈ p'.backend.memory.sessions ↔
      (∃ tried presented, call = .login presented ∧ presented.credentials = .ok ⟨user, tried⟩ ∧
        result = .ok (.flag true)) ∨
      user ∈ p.backend.memory.sessions ∧ ¬(call = .logout user ∧ result = .ok .done) := by
  cases effect with
  | failed backend => simp [backend]
  | looked backend _ idle =>
      rw [backend]
      cases call with
      | login presented => simp_all [Call.OnlyLooks]
      | logout user => exact absurd idle id
      | _ => simp
  | registered _ _ _ backend => simp [backend]
  | @opened presented credentials _ _ read _ _ backend =>
      obtain ⟨name, tried⟩ := credentials
      simp only [backend, Roster.mem_insert, Call.login.injEq, reduceCtorEq, false_and,
        not_false_eq_true, and_true]
      constructor
      · rintro (live | rfl)
        · exact .inr live
        · exact .inl ⟨tried, presented, rfl, read⟩
      · rintro (⟨other, _, rfl, again⟩ | live)
        · rw [read, Except.ok.injEq, Credentials.mk.injEq] at again
          exact .inr again.1.symm
        · exact .inl live
  | closed _ backend =>
      simp only [backend, Roster.mem_erase, Call.logout.injEq, reduceCtorEq]
      grind

theorem Effect.users_cases (effect : Effect config salts p call result p') :
    (p'.backend.memory.users = p.backend.memory.users ∧
      ¬∃ user password, call = .register user password ∧ result = .ok .done) ∨
    ∃ user password hash salt, call = .register user password ∧ result = .ok .done ∧
      user ∉ p.backend.memory.users ∧ password.hash salt config.hashIterations = .ok hash ∧
      p'.backend.memory.users = p.backend.memory.users.insert user (.hashed hash) := by
  cases effect with
  | failed backend => simp [backend]
  | looked backend _ idle =>
      refine .inl ⟨by rw [backend], ?_⟩
      rintro ⟨user, password, rfl, -⟩
      exact idle
  | @registered user password hash _ _ absent hashed backend =>
      refine .inr ⟨user, password, hash, _, rfl, rfl, ?_, hashed, by rw [backend]⟩
      exact Directory.get?_eq_none_iff.mp absent
  | opened _ _ _ backend => exact .inl ⟨by rw [backend], by simp⟩
  | closed _ backend => exact .inl ⟨by rw [backend], by simp⟩

theorem Effect.matching_of_login {presented : Presented} {user : String} {tried : Password}
    (effect : Effect config salts p (.login presented) (.ok (.flag true)) p')
    (read : presented.credentials = .ok ⟨user, tried⟩) :
    ∃ stored, p.backend.memory.users.get? user = some stored ∧
      stored.matching tried = .ok true := by
  cases effect with
  | looked _ _ idle => simp [Call.OnlyLooks] at idle
  | @opened _ credentials stored _ again found matching =>
      rw [read, Except.ok.injEq] at again
      subst again
      exact ⟨stored, found, matching⟩

end Effects

/-- What is armed does not change what is stored. -/
theorem memory_acted_of_not_call (s : Store) {action : Action}
    (other : ∀ call, action ≠ .call call) : (s.acted action).backend.memory = s.backend.memory := by
  rcases s.act_call_or_guards action with ⟨call, same⟩ | ⟨guards, changed⟩
  · exact absurd same (other call)
  · rw [acted, changed]

theorem isLoggedIn_acted_iff {s : Store} (sound : s.backend.defects = .none) (action : Action)
    (user : String) :
    (s.acted action).IsLoggedIn user ↔
      (∃ tried, Stage.LogsIn (s, action) user tried) ∨
        s.IsLoggedIn user ∧ ¬Stage.LogsOut (s, action) user := by
  by_cases called : ∃ call, action = .call call
  · obtain ⟨call, rfl⟩ := called
    have effect := effect_outcome s.config s.salts (p := s.progress) sound call
    simp only [Stage.LogsIn, Stage.LogsOut, Action.call.injEq]
    exact effect.mem_sessions_iff user
  · have other : ∀ call, action ≠ .call call := fun call same => called ⟨call, same⟩
    simp [IsLoggedIn, Stage.LogsIn, Stage.LogsOut, memory_acted_of_not_call s other, other]

theorem users_acted_cases {s : Store} (sound : s.backend.defects = .none) (action : Action) :
    ((s.acted action).backend.memory.users = s.backend.memory.users ∧
      ∀ user password, ¬Stage.Registers (s, action) user password) ∨
    ∃ user password hash salt, Stage.Registers (s, action) user password ∧
      user ∉ s.backend.memory.users ∧ password.hash salt s.config.hashIterations = .ok hash ∧
      (s.acted action).backend.memory.users =
        s.backend.memory.users.insert user (.hashed hash) := by
  by_cases called : ∃ call, action = .call call
  · obtain ⟨call, rfl⟩ := called
    have effect := effect_outcome s.config s.salts (p := s.progress) sound call
    rcases effect.users_cases with ⟨kept, none⟩ | ⟨user, password, hash, salt, asked, done, entered⟩
    · refine .inl ⟨kept, ?_⟩
      rintro user password ⟨asked, done⟩
      exact none ⟨user, password, Action.call.inj asked, done⟩
    · exact .inr ⟨user, password, hash, salt, ⟨congrArg Action.call asked, done⟩, entered⟩
  · have other : ∀ call, action ≠ .call call := fun call same => called ⟨call, same⟩
    refine .inl ⟨by rw [memory_acted_of_not_call s other], ?_⟩
    rintro user password ⟨asked, -⟩
    exact other _ asked

/-! ## Histories -/

/-- Some login of the user is followed by no logout. -/
def Live (history : List Stage) (user : String) : Prop :=
  ∃ before login after, history = before ++ login :: after ∧
    (∃ tried, login.LogsIn user tried) ∧ ∀ later ∈ after, ¬later.LogsOut user

/-- One stage registers the user, with a password and a hash that is stored for it, and no other
stage does so with any password. -/
def RegisteredOnce (history : List Stage) (user : String) (password : Password)
    (hash : PasswordHash) : Prop :=
  ∃ before origin after, history = before ++ origin :: after ∧ origin.Registers user password ∧
    origin.memory.users.get? user = some (.hashed hash) ∧
    ∀ other ∈ before ++ after, ∀ again, ¬other.Registers user again

theorem live_snoc (history : List Stage) (stage : Stage) (user : String) :
    Live (history ++ [stage]) user ↔
      (∃ tried, stage.LogsIn user tried) ∨ Live history user ∧ ¬stage.LogsOut user := by
  constructor
  · rintro ⟨before, login, after, split, opened, still⟩
    rcases List.eq_nil_or_concat after with rfl | ⟨after, last, rfl⟩
    · obtain ⟨-, same⟩ := List.append_inj' split rfl
      cases same
      exact .inl opened
    · rw [List.concat_eq_append, ← List.cons_append, ← List.append_assoc] at split
      obtain ⟨rfl, same⟩ := List.append_inj' split rfl
      cases same
      refine .inr ⟨⟨before, login, after, rfl, opened, ?_⟩, still stage (by simp)⟩
      intro later among
      exact still later (by simp [among])
  · rintro (opened | ⟨⟨before, login, after, rfl, opened, still⟩, stays⟩)
    · exact ⟨history, stage, [], rfl, opened, nofun⟩
    · refine ⟨before, login, after ++ [stage], by simp, opened, ?_⟩
      intro later among
      rcases List.mem_append.mp among with earlier | last
      · exact still later earlier
      · rwa [List.mem_singleton.mp last]

theorem RegisteredOnce.snoc {history : List Stage} {user : String} {password : Password}
    {hash : PasswordHash} (once : RegisteredOnce history user password hash) {stage : Stage}
    (other : ∀ again, ¬stage.Registers user again) :
    RegisteredOnce (history ++ [stage]) user password hash := by
  obtain ⟨before, origin, after, rfl, registers, stored, alone⟩ := once
  refine ⟨before, origin, after ++ [stage], by simp, registers, stored, ?_⟩
  intro later among
  rw [← List.append_assoc, List.mem_append, List.mem_singleton] at among
  rcases among with earlier | rfl
  · exact alone later earlier
  · exact other

/-! ## Stores and their histories -/

structure Explained (history : List Stage) (s : Store) : Prop where
  defects : s.backend.defects = .none
  sessions : ∀ user, s.IsLoggedIn user ↔ Live history user
  unknown : ∀ user, user ∉ s.backend.memory.users → ∀ stage ∈ history, ∀ password,
    ¬stage.Registers user password
  stored : ∀ user value, s.backend.memory.users.get? user = some value →
    ∃ password hash salt, value = .hashed hash ∧
      (∃ iterations : Nat, password.hash salt iterations = .ok hash) ∧
      RegisteredOnce history user password hash

theorem explained_blank (config : Config) (salts : SaltSource)
    (guards : List (Roster FailPoint)) : Explained [] (blank config salts guards) where
  defects := rfl
  sessions := by
    intro user
    constructor
    · intro live
      cases live
    · rintro ⟨before, login, after, split, -⟩
      simp at split
  unknown := by
    intro user _ stage among
    cases among
  stored := by
    intro user value found
    cases found

theorem Explained.acted {history : List Stage} {s : Store} (explained : Explained history s)
    (action : Action) : Explained (history ++ [(s, action)]) (s.acted action) where
  defects := act_defects explained.defects action
  sessions := by
    intro user
    rw [isLoggedIn_acted_iff explained.defects, live_snoc, explained.sessions]
  unknown := by
    intro user absent stage among password registers
    rcases users_acted_cases explained.defects action with ⟨kept, none⟩ |
      ⟨name, entered, hash, salt, registered, -, -, inserted⟩
    · rw [kept] at absent
      rcases List.mem_append.mp among with earlier | last
      · exact explained.unknown user absent stage earlier password registers
      · rw [List.mem_singleton.mp last] at registers
        exact none user password registers
    · rw [inserted, Directory.mem_insert, not_or] at absent
      rcases List.mem_append.mp among with earlier | last
      · exact explained.unknown user absent.1 stage earlier password registers
      · rw [List.mem_singleton.mp last] at registers
        have same := registered.1.symm.trans registers.1
        exact absent.2 (by cases same; rfl)
  stored := by
    intro user value found
    rcases users_acted_cases explained.defects action with ⟨kept, none⟩ |
      ⟨name, entered, hash, salt, registered, absent, hashed, inserted⟩
    · rw [kept] at found
      obtain ⟨password, hash, salt, rfl, made, once⟩ := explained.stored user value found
      exact ⟨password, hash, salt, rfl, made, once.snoc (none user)⟩
    · have found' := found
      rw [inserted, Directory.get?_insert] at found
      by_cases same : name = user
      · subst same
        rw [if_pos rfl, Option.some.injEq] at found
        subst found
        refine ⟨entered, hash, salt, rfl, ⟨_, hashed⟩, history, (s, action), [], rfl, registered,
          found', ?_⟩
        intro other among again
        rw [List.append_nil] at among
        exact explained.unknown name absent other among again
      · rw [if_neg same] at found
        obtain ⟨password, hash, salt, rfl, made, once⟩ := explained.stored user value found
        refine ⟨password, hash, salt, rfl, made, once.snoc ?_⟩
        intro again registers
        have clash := registered.1.symm.trans registers.1
        exact same (by cases clash; rfl)

theorem explained_run (config : Config) (salts : SaltSource) (guards : List (Roster FailPoint))
    (actions : List Action) :
    Explained (stages acted (blank config salts guards) actions)
      (actions.foldl acted (blank config salts guards)) :=
  history_induction Explained (explained_blank config salts guards)
    (fun _ _ action explained => explained.acted action) actions

/-! ## Logins and secrets -/

/-- A login shows a password with the derived key of the one that was registered. -/
theorem Explained.login {history : List Stage} {stage : Stage}
    (explained : Explained history stage.1) {user : String} {tried : Password}
    (login : stage.LogsIn user tried) :
    ∃ password hash fields key, RegisteredOnce history user password hash ∧
      hash.fields = .ok fields ∧
      tried.derive fields.salt fields.iterations = .ok key ∧
      password.derive fields.salt fields.iterations = .ok key := by
  obtain ⟨s, action⟩ := stage
  obtain ⟨presented, rfl, read, succeeded⟩ := login
  obtain ⟨p, effect, -⟩ := effect_of_result explained.defects succeeded
  obtain ⟨value, found, matching⟩ := effect.matching_of_login read
  obtain ⟨password, hash, salt, rfl, ⟨iterations, made⟩, once⟩ := explained.stored user value found
  obtain ⟨⟨positive, bound⟩, rfl⟩ := Password.eq_compose_of_hash_eq made
  rw [Stored.matching_compose tried positive bound, Except.ok.injEq, decide_eq_true_eq] at matching
  refine ⟨password, _, _, password.key salt iterations, once,
    PasswordHash.fields_compose bound _ _, ?_, ?_⟩
  · rw [← matching]
    exact Password.derive_eq_key tried salt positive bound
  · exact Password.derive_eq_key password salt positive bound

theorem result_accessSecret {s : Store} (sound : s.backend.defects = .none) {user message : String}
    (formed : UserId.WellFormed user)
    (rendered : Template.render s.config.secretTemplate user = .ok message) :
    (s.act (.call (.accessSecret user))).result =
      if s.backend.isArmed .hasSession then .error FailPoint.hasSession.failure
      else if s.IsLoggedIn user then .ok (.secret ⟨user, message⟩)
      else .error (.refused (.notAuthenticated user)) := by
  rw [result_act, outcome_accessSecret s.config s.salts sound, UserId.check_of_wellFormed formed]
  simp only [progress_backend, rendered]
  by_cases armed : s.backend.isArmed .hasSession = true
  · rw [if_pos armed, if_pos armed]
  · rw [if_neg armed, if_neg armed]
    by_cases live : s.IsLoggedIn user
    · rw [if_pos live, if_pos (by exact live)]
    · rw [if_neg live, if_neg (by exact live)]

/-- Who has a session gets the filled in template, if looking for sessions does not fail. -/
theorem result_accessSecret_of_live {s : Store} (sound : s.backend.defects = .none)
    {user message : String} (formed : UserId.WellFormed user) (live : s.IsLoggedIn user)
    (unarmed : s.backend.isArmed .hasSession = false)
    (rendered : Template.render s.config.secretTemplate user = .ok message) :
    (s.act (.call (.accessSecret user))).result = .ok (.secret ⟨user, message⟩) := by
  rw [result_accessSecret sound formed rendered, if_neg (by simp [unarmed]), if_pos live]

/-- At the end of every run a user has a session exactly if some login of the user is followed
by no logout.  Then and only then, unless looking for sessions fails, the user gets a secret.
Every login of the run shows the password of the user's one registration before it, or one with
the same derived key under the salt and the iterations that are stored. -/
theorem sessions_follow_history (config : Config) (salts : SaltSource)
    (guards : List (Roster FailPoint)) (actions : List Action) {user : String}
    (formed : UserId.WellFormed user) :
    let s := actions.foldl acted (blank config salts guards)
    let history := stages acted (blank config salts guards) actions
    (s.IsLoggedIn user ↔ Live history user) ∧
      (∀ message, Template.render config.secretTemplate user = .ok message →
        ((s.act (.call (.accessSecret user))).result = .ok (.secret ⟨user, message⟩) ↔
          Live history user ∧ s.backend.isArmed .hasSession = false) ∧
        ∀ value, (s.act (.call (.accessSecret user))).result = .ok value →
          value = .secret ⟨user, message⟩) ∧
      ∀ before login after tried, history = before ++ login :: after → login.LogsIn user tried →
        ∃ password hash fields key, RegisteredOnce before user password hash ∧
          hash.fields = .ok fields ∧
          tried.derive fields.salt fields.iterations = .ok key ∧
          password.derive fields.salt fields.iterations = .ok key := by
  intro s history
  have explained : Explained history s := explained_run config salts guards actions
  refine ⟨explained.sessions user, ?_, ?_⟩
  · intro message rendered
    have settings : s.config = config := (used_run guards actions).config_eq
    have secret := result_accessSecret explained.defects formed (by rw [settings]; exact rendered)
    rw [secret, ← explained.sessions]
    cases s.backend.isArmed .hasSession with
    | true => simp
    | false =>
        by_cases live : s.IsLoggedIn user
        · simp [live, eq_comm]
        · simp [live]
  · intro before login after tried split shown
    -- The stages before the login are a run of their own, which explains the store it found.
    obtain ⟨earlier, rfl, reached⟩ := exists_run_of_split split
    have explained := explained_run config salts guards earlier
    rw [reached] at explained
    exact explained.login shown

/-- A session outlasts a logout that fails, and a login that fails does not count. -/
def unsettled : List Action := [.call (.register "Bob" ⟨"pw"⟩), .call (.login (.line "Bob:pw")),
  .arm "db.remove_session", .call (.logout "Bob"), .arm "db.add_session",
  .call (.login (.pair ⟨"Bob", ⟨"pw"⟩⟩))]

theorem sessions_follow_history_unsettled :
    let s := unsettled.foldl acted (blank .fast .counter [.empty])
    let history := stages acted (blank .fast .counter [.empty]) unsettled
    UserId.WellFormed "Bob" ∧ Live history "Bob" ∧
      (s.act (.call (.accessSecret "Bob"))).result =
        .ok (.secret ⟨"Bob", "Secrets for user Bob"⟩) ∧
      ∃ before login after tried, history = before ++ login :: after ∧ login.LogsIn "Bob" tried ∧
        ∃ password hash, RegisteredOnce before "Bob" password hash := by
  have formed : UserId.WellFormed "Bob" := by decide
  have reached : (unsettled.foldl acted (blank .fast .counter [.empty])).IsLoggedIn "Bob" ∧
      (unsettled.foldl acted (blank .fast .counter [.empty])).backend.isArmed .hasSession =
        false := by
    decide +kernel
  obtain ⟨sessions, secrets, logins⟩ :=
    sessions_follow_history .fast .counter [.empty] unsettled formed
  obtain ⟨before, login, after, split, ⟨tried, opened⟩, -⟩ := sessions.mp reached.1
  obtain ⟨password, hash, -, -, once, -⟩ := logins before login after tried split opened
  refine ⟨formed, sessions.mp reached.1, ?_, before, login, after, tried, split, opened,
    password, hash, once⟩
  exact (secrets _ (Template.render_standard "Bob")).1.mpr ⟨sessions.mp reached.1, reached.2⟩

end Store

end Gatekeeper
