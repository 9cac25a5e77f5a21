import Gatekeeper.Proofs.Store.Login

/-!
# Registrations are permanent

A registration that returns enters its identifier at the end of the directory, and
nothing else changes the directory.  So the identifiers are those of the registrations
that returned, each once and in their order, and what one of them has stored is found
from then on.
-/

namespace Gatekeeper

open Run

namespace Store

/-! ## Steps -/

def Stage.registrant? (stage : Stage) : Option String :=
  match stage.2, stage.result with
  | .call (.register user _), .ok .done => some user
  | _, _ => none

theorem Stage.registrant?_eq_some_iff {stage : Stage} {user : String} :
    stage.registrant? = some user ↔ ∃ password, stage.Registers user password := by
  constructor
  · intro same
    unfold registrant? at same
    split at same
    · next name password asked done =>
        cases same
        exact ⟨password, asked, done⟩
    · cases same
  · rintro ⟨password, asked, done⟩
    rw [registrant?, asked, done]

variable {s : Store} {user : String}

theorem keys_acted (sound : s.backend.defects = .none) (action : Action) :
    (s.acted action).backend.memory.users.keys =
      s.backend.memory.users.keys ++ (Stage.registrant? (s, action)).toList := by
  rcases users_acted_cases sound action with ⟨kept, none⟩ |
    ⟨name, password, hash, salt, registered, absent, -, entered⟩
  · have nobody : Stage.registrant? (s, action) = .none := by
      rw [Option.eq_none_iff_forall_ne_some]
      intro name same
      obtain ⟨password, registered⟩ := Stage.registrant?_eq_some_iff.mp same
      exact none name password registered
    rw [kept, nobody, Option.toList_none, List.append_nil]
  · have someone : Stage.registrant? (s, action) = some name :=
      Stage.registrant?_eq_some_iff.mpr ⟨password, registered⟩
    rw [entered, someone, Directory.keys_insert, if_neg (by exact absent), Option.toList_some]

/-- What is stored for a user is not changed by anything that is done. -/
theorem get?_acted (sound : s.backend.defects = .none) {stored : Stored}
    (found : s.backend.memory.users.get? user = some stored) (action : Action) :
    (s.acted action).backend.memory.users.get? user = some stored := by
  rcases users_acted_cases sound action with ⟨kept, -⟩ |
    ⟨name, password, hash, salt, -, absent, -, entered⟩
  · rw [kept]
    exact found
  · have other : name ≠ user := by
      rintro rfl
      exact absent (Directory.get?_isSome_iff.mp (Option.isSome_of_eq_some found))
    rw [entered, Directory.get?_insert, if_neg other]
    exact found

/-! ## Runs -/

theorem keys_run (config : Config) (salts : SaltSource) (guards : List (Roster FailPoint))
    (actions : List Action) :
    (actions.foldl acted (blank config salts guards)).backend.memory.users.keys =
      (stages acted (blank config salts guards) actions).filterMap Stage.registrant? := by
  have kept := @history_induction _ _ acted
    (fun history (s : Store) => s.Used config salts ∧
      s.backend.memory.users.keys = history.filterMap Stage.registrant?)
    (blank config salts guards) ⟨used_blank config salts guards, rfl⟩ ?_ actions
  · exact kept.2
  · rintro history s action ⟨used, same⟩
    refine ⟨used.acted action, ?_⟩
    rw [keys_acted used.defects action, same, List.filterMap_append]
    cases registered : Stage.registrant? (s, action) <;> simp [registered]

/-- What is stored for a user is stored in all later states. -/
theorem get?_states (sound : s.backend.defects = .none) {stored : Stored}
    (found : s.backend.memory.users.get? user = some stored) (actions : List Action) :
    ∀ t ∈ states acted s actions, t.backend.memory.users.get? user = some stored := by
  intro t later
  have kept := states_induction
    (fun t : Store => t.backend.defects = .none ∧ t.backend.memory.users.get? user = some stored)
    (fun t action kept => ⟨act_defects kept.1 action, get?_acted kept.1 kept.2 action⟩)
    ⟨sound, found⟩ actions
  exact (kept t later).2

theorem result_getPassword (s : Store) (user : String) :
    (s.run (Backend.getPassword user)).result =
      if s.backend.isArmed .getPassword then .error FailPoint.getPassword.failure
      else .ok (s.backend.memory.users.get? user) := by
  rw [run_eq, Backend.outcome_getPassword]
  by_cases armed : s.backend.isArmed .getPassword = true
  · rw [if_pos armed, if_pos (by exact armed)]
  · rw [if_neg armed, if_neg (by exact armed)]
    rfl

/-- After every run the registered identifiers are those of the registrations that returned, in
their order, and none of them twice.  Unless looking for passwords fails, every later state finds
for the user of such a registration the hash of its password under the salt that it drew. -/
theorem registrations_permanent (config : Config) (salts : SaltSource)
    (guards : List (Roster FailPoint)) (actions : List Action) :
    let start := blank config salts guards
    let registrants := (stages acted start actions).filterMap Stage.registrant?
    (actions.foldl acted start).backend.memory.users.keys = registrants ∧
      registrants.Nodup ∧
      ∀ (earlier : List Action) (user : String) (password : Password) (later : List Action),
        let s := earlier.foldl acted start
        let ended := s.act (.call (.register user password))
        ended.result = .ok .done →
          ∃ hash, password.hash s.nextSalt config.hashIterations = .ok hash ∧
            ∀ t ∈ states acted ended.store later,
              (t.run (Backend.getPassword user)).result =
                if t.backend.isArmed .getPassword then .error FailPoint.getPassword.failure
                else .ok (some (.hashed hash)) := by
  intro start registrants
  have keys := keys_run config salts guards actions
  refine ⟨keys, ?_, ?_⟩
  · have distinct := (actions.foldl acted start).backend.memory.users.nodup_keys
    rwa [keys] at distinct
  · intro earlier user password later s ended registered
    have used : s.Used config salts := used_run guards earlier
    obtain ⟨-, hash, hashed, entered⟩ := backend_of_register used.defects registered
    rw [used.config_eq] at hashed
    refine ⟨hash, hashed, ?_⟩
    intro t reached
    have found : ended.store.backend.memory.users.get? user = some (.hashed hash) := by
      rw [show ended.store.backend = _ from entered, Directory.get?_insert, if_pos rfl]
    have sound : ended.store.backend.defects = .none := act_defects used.defects _
    rw [result_getPassword, get?_states sound found later t reached]

/-- A user registers twice, and another one once more after a failure. -/
def crowding : List Action := [.call (.register "Bob" ⟨"pw"⟩), .call (.register "Bob" ⟨"other"⟩),
  .arm "db.register", .call (.register "Carol" ⟨"pw"⟩), .reset, .call (.register "Carol" ⟨"pw"⟩)]

theorem registrations_permanent_crowding :
    let s := crowding.foldl acted (blank .fast .counter [.empty])
    s.backend.memory.users.keys = ["Bob", "Carol"] ∧
      ∃ hash, (⟨"pw"⟩ : Password).hash (SaltSource.counter.draw 1 16) 1 = .ok hash ∧
        (s.run (Backend.getPassword "Bob")).result = .ok (some (.hashed hash)) := by
  have registered : ((blank .fast .counter [.empty]).act (.call (.register "Bob" ⟨"pw"⟩))).result =
      .ok .done :=
    result_register rfl (by decide) rfl rfl rfl (by decide)
  have unarmed : (crowding.foldl acted (blank .fast .counter [.empty])).backend.isArmed
      .getPassword = false := by
    decide +kernel
  have registrants : (stages acted (blank .fast .counter [.empty]) crowding).filterMap
      Stage.registrant? = ["Bob", "Carol"] := by
    decide +kernel
  have last : crowding.foldl acted (blank .fast .counter [.empty]) ∈ states acted
      ((blank .fast .counter [.empty]).acted (.call (.register "Bob" ⟨"pw"⟩))) crowding.tail :=
    foldl_mem_states _ crowding.tail
  obtain ⟨keys, -, lasting⟩ := registrations_permanent .fast .counter [.empty] crowding
  obtain ⟨hash, hashed, found⟩ := lasting [] "Bob" ⟨"pw"⟩ crowding.tail registered
  have stored := found _ last
  -- Otherwise the store that is reached would be computed.
  generalize crowding.foldl acted (blank .fast .counter [.empty]) = s at keys unarmed stored ⊢
  rw [registrants] at keys
  rw [unarmed, if_neg Bool.false_ne_true] at stored
  exact ⟨keys, hash, hashed, stored⟩

end Store

end Gatekeeper
