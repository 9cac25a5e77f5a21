import Gatekeeper.Proofs.Contract.Check
import Gatekeeper.Proofs.Store.Regular
import Gatekeeper.Proofs.Store.Unarmed

/-!
# The contracts of the other calls

The contracts of a registration, a logout and an access to a secret are exact where
nothing is armed.  A call that a condition forbids is refused with the kind that the
condition names; every other call returns, and what is promised of it holds.
-/

namespace Gatekeeper

namespace Contract

open Store

variable {s : Store} {subject : Subject}

/-! ## Refused calls -/

theorem about_call (other : subject.operation ≠ .login) :
    subject.call.about = UserId.check subject.user := by
  cases subject with
  | login user line => exact absurd rfl other
  | _ => rfl

/-- A call that a condition forbids is refused with the kind that the condition names. -/
theorem refused_of_triggers (sound : s.backend.defects = .none) (unarmed : s.Unarmed)
    (other : subject.operation ≠ .login)
    (renders : ∀ user, ∃ message, Template.render s.config.secretTemplate user = .ok message)
    {condition : Condition} (listed : condition ∈ subject.operation.conditions)
    (holds : condition.Triggers s.backend.memory subject) :
    ∃ refusal, (s.act (.call subject.call)).result = .error (.refused refusal) ∧
      refusal.kind = condition.kind := by
  cases condition with
  | malformedIdentifier =>
      obtain ⟨malformation, refused⟩ := UserId.exists_check_eq_error holds
      have malformed := s.act_of_malformed ((about_call other).trans refused)
      exact ⟨.malformed malformation, by rw [malformed]; rfl, rfl⟩
  | takenIdentifier =>
      cases subject with
      | register user password =>
          exact ⟨_, result_register_of_known sound unarmed holds.1 holds.2 _, rfl⟩
      | _ => simp [Operation.conditions, Subject.operation] at listed
  | noSession =>
      cases subject with
      | accessSecret user =>
          obtain ⟨message, rendered⟩ := renders user
          have formed : UserId.WellFormed user := holds.1
          have away : ¬s.IsLoggedIn user := holds.2
          have asked := result_accessSecret sound formed rendered
          rw [unarmed, if_neg Bool.false_ne_true, if_neg away] at asked
          exact ⟨_, asked, rfl⟩
      | _ => simp [Operation.conditions, Subject.operation] at listed
  | missingSeparator | emptyIdentifier =>
      cases subject with
      | login user line => exact absurd rfl other
      | _ => simp [Operation.conditions, Subject.operation] at listed

/-! ## Answered calls -/

def Kept (s : Store) (subject : Subject) : Prop :=
  ∃ value, (s.act (.call subject.call)).result = .ok value ∧
    ∀ post ∈ subject.operation.postconditions,
      post.Holds (s.acted (.call subject.call)).backend.memory subject value

theorem kept_register (sound : s.backend.defects = .none) (unarmed : s.Unarmed)
    (bound : s.config.hashIterations ≤ Hash.Pbkdf2.maxIterations)
    (registered : ∀ user, user ∈ s.backend.memory.sessions → user ∈ s.backend.memory.users)
    {user : String} (formed : UserId.WellFormed user) (absent : user ∉ s.backend.memory.users)
    (password : String) : Kept s (.register user password) := by
  have unknown := Directory.get?_eq_none_iff.mpr absent
  have result := @result_register s user ⟨password⟩ sound formed unknown (unarmed _) (unarmed _)
    bound
  obtain ⟨-, hash, -, entered⟩ := backend_of_register sound result
  refine ⟨.done, result, ?_⟩
  intro post listed
  simp only [Subject.operation, Operation.postconditions, List.mem_cons, List.not_mem_nil,
    or_false] at listed
  rcases listed with rfl | rfl
  · show user ∈ (s.acted (.call (.register user ⟨password⟩))).backend.memory.users
    rw [entered]
    exact Directory.mem_insert.mpr (.inr rfl)
  · -- Who has a session was registered before.
    show user ∉ (s.acted (.call (.register user ⟨password⟩))).backend.memory.sessions
    rw [entered]
    exact fun live => absent (registered user live)

theorem kept_logout (sound : s.backend.defects = .none) (unarmed : s.Unarmed) {user : String}
    (formed : UserId.WellFormed user) : Kept s (.logout user) := by
  have result := result_logout sound unarmed formed
  obtain ⟨memory, left, -, erased⟩ := leaves_of_returned sound result
  refine ⟨.done, result, ?_⟩
  intro post listed
  simp only [Subject.operation, Operation.postconditions, List.mem_singleton] at listed
  subst listed
  show user ∉ (s.acted (.call (.logout user))).backend.memory.sessions
  rw [left, erased]
  exact fun live => (Roster.mem_erase.mp live).1 rfl

theorem kept_accessSecret (sound : s.backend.defects = .none) (unarmed : s.Unarmed)
    {user message : String} (formed : UserId.WellFormed user)
    (rendered : Template.render s.config.secretTemplate user = .ok message)
    (live : s.IsLoggedIn user) : Kept s (.accessSecret user) := by
  have result := result_accessSecret sound formed rendered
  rw [unarmed, if_neg Bool.false_ne_true, if_pos live] at result
  refine ⟨_, result, ?_⟩
  intro post listed
  simp only [Subject.operation, Operation.postconditions, List.mem_singleton] at listed
  subst listed
  exact ⟨message, rfl⟩

/-- A call that no condition forbids returns, and what is promised of it holds. -/
theorem kept_of_not_triggers (sound : s.backend.defects = .none) (unarmed : s.Unarmed)
    (bound : s.config.hashIterations ≤ Hash.Pbkdf2.maxIterations)
    (registered : ∀ user, user ∈ s.backend.memory.sessions → user ∈ s.backend.memory.users)
    (renders : ∀ user, ∃ message, Template.render s.config.secretTemplate user = .ok message)
    (other : subject.operation ≠ .login)
    (allowed : ∀ condition ∈ subject.operation.conditions,
      ¬condition.Triggers s.backend.memory subject) : Kept s subject := by
  have formed (listed : Condition.malformedIdentifier ∈ subject.operation.conditions) :
      UserId.WellFormed subject.user :=
    Decidable.byContradiction fun ill => allowed _ listed ill
  cases subject with
  | register user password =>
      have formed : UserId.WellFormed user := formed List.mem_cons_self
      have absent : user ∉ s.backend.memory.users := fun known =>
        allowed .takenIdentifier (List.mem_cons_of_mem _ List.mem_cons_self) ⟨formed, known⟩
      exact kept_register sound unarmed bound registered formed absent password
  | login user line => exact absurd rfl other
  | logout user => exact kept_logout sound unarmed (formed List.mem_cons_self)
  | accessSecret user =>
      have formed : UserId.WellFormed user := formed List.mem_cons_self
      have live : s.IsLoggedIn user := Decidable.byContradiction fun away =>
        allowed .noSession (List.mem_cons_of_mem _ List.mem_cons_self) ⟨formed, away⟩
      obtain ⟨message, rendered⟩ := renders user
      exact kept_accessSecret sound unarmed formed rendered live

/-! ## Calls after any run -/

/-- After every run of a store without guards and with the standard template, a registration, a
logout or an access to a secret is refused exactly if a condition of the contract holds before it,
and then with the kind that each such condition names.  Otherwise it returns, all that is promised
holds afterwards, and so does every rule.  A check finds nothing. -/
theorem calls_judged (config : Config) (salts : SaltSource) (actions : List Action)
    (subject : Subject) (other : subject.operation ≠ .login)
    (bound : config.hashIterations ≤ Hash.Pbkdf2.maxIterations)
    (standard : config.secretTemplate = Config.standard.secretTemplate) :
    let s := actions.foldl acted (blank config salts [])
    let ended := s.act (.call subject.call)
    salts.Distinct config.saltBytes ended.store.draws →
      subject.check s = .ok (⟨[], 1⟩, ended.store) ∧
      ((∃ refusal, ended.result = .error (.refused refusal)) ↔
        ∃ condition ∈ subject.operation.conditions,
          condition.Triggers s.backend.memory subject) ∧
      (∀ condition ∈ subject.operation.conditions,
        condition.Triggers s.backend.memory subject →
          ∃ refusal, ended.result = .error (.refused refusal) ∧ refusal.kind = condition.kind) ∧
      ((∀ condition ∈ subject.operation.conditions,
        ¬condition.Triggers s.backend.memory subject) →
          ∃ value, ended.result = .ok value ∧
            (∀ post ∈ subject.operation.postconditions,
              post.Holds ended.store.backend.memory subject value) ∧
            ∀ rule : Rule, rule.Holds ended.store.backend.memory) := by
  intro s ended distinct
  have used : s.Used config salts := used_run [] actions
  have unarmed : s.Unarmed := unarmed_of_unguarded (guards_run config salts actions)
  have bound' : s.config.hashIterations ≤ Hash.Pbkdf2.maxIterations := by
    rw [used.config_eq]
    exact bound
  have renders : ∀ user, ∃ message, Template.render s.config.secretTemplate user = .ok message := by
    intro user
    rw [used.config_eq, standard]
    exact ⟨_, Template.render_standard user⟩
  have rules : ∀ rule : Rule, rule.Holds ended.store.backend.memory := by
    have reached : (actions ++ [Action.call subject.call]).foldl acted (blank config salts []) =
        ended.store := List.foldl_append
    have sound := sound_run [] _ bound (reached ▸ distinct)
    exact (reached ▸ sound).memory.holds
  have refused (condition : Condition) (listed : condition ∈ subject.operation.conditions)
      (holds : condition.Triggers s.backend.memory subject) :=
    refused_of_triggers used.defects unarmed other renders listed holds
  have kept (allowed : ∀ condition ∈ subject.operation.conditions,
      ¬condition.Triggers s.backend.memory subject) : Kept s subject :=
    kept_of_not_triggers used.defects unarmed bound'
      (regular_run salts [] actions).registered renders other allowed
  refine ⟨subject.check_of_exact refused kept rules, ?_, refused, ?_⟩
  · constructor
    · rintro ⟨refusal, result⟩
      refine Decidable.byContradiction fun free => ?_
      obtain ⟨value, returned, -⟩ := kept fun condition listed holds =>
        free ⟨condition, listed, holds⟩
      rw [show ended.result = .ok value from returned] at result
      cases result
    · rintro ⟨condition, listed, holds⟩
      obtain ⟨refusal, result, -⟩ := refused condition listed holds
      exact ⟨refusal, result⟩
  · intro allowed
    obtain ⟨value, result, posts⟩ := kept allowed
    exact ⟨value, result, posts, rules⟩

def settledIn : List Action :=
  [.call (.register "Bob" ⟨"pw"⟩), .call (.login (.line "Bob:pw"))]

/-- Someone else registers, the user registers again, and the secret is asked for by both. -/
theorem calls_judged_settledIn :
    let s := settledIn.foldl acted (blank .fast .counter [])
    s.IsLoggedIn "Bob" ∧
      ∀ subject ∈ [Subject.register "Carol" "", .register "Bob" "other", .accessSecret "Bob",
          .accessSecret "Carol", .logout "Bob:"],
        subject.check s = .ok (⟨[], 1⟩, (s.act (.call subject.call)).store) := by
  intro s
  have live : (settledIn.foldl acted (blank .fast .counter [])).IsLoggedIn "Bob" := by
    decide +kernel
  refine ⟨live, ?_⟩
  intro subject among
  have other : subject.operation ≠ .login := by
    simp only [List.mem_cons, List.not_mem_nil, or_false] at among
    rcases among with rfl | rfl | rfl | rfl | rfl <;> exact nofun
  have used := @used_run .fast .counter [] settledIn
  have few := draws_run_le .fast .counter [] settledIn
  have drawn := (draws_act_bounds used.defects (.call subject.call)).2
  have most := Nat.le_trans drawn (Nat.add_le_add_right few 1)
  have distinct := SaltSource.counter_distinct (Nat.lt_of_le_of_lt most
    (show settledIn.length + 1 < Nat.pow 256 Config.fast.saltBytes by decide))
  exact (calls_judged .fast .counter settledIn subject other (by decide) rfl distinct).1

end Contract

end Gatekeeper
