import Gatekeeper.Proofs.Store.Reachable

/-!
# Stores that draw any salts

If a salt is drawn twice, two users may be stored with one hash.  Whatever salts are
drawn, though, the other rules hold after every run, and every stored value can be
compared with every password.  Where there is no guard nothing can be armed.
-/

namespace Gatekeeper

open Run

/-- What holds of a memory into which a store has written, whatever salts it draws. -/
structure Memory.Regular (config : Config) (m : Memory) : Prop where
  registered : ∀ user, user ∈ m.sessions → user ∈ m.users
  wellFormed : ∀ user, user ∈ m.users → UserId.WellFormed user
  hashed : ∀ value ∈ m.users.values, config.hashIterations ≤ Hash.Pbkdf2.maxIterations ∧
    ∃ salt digest, value = .hashed (.compose config.hashIterations salt digest)

namespace Memory.Regular

variable {config : Config} {m : Memory}

theorem empty (config : Config) : Regular config .empty where
  registered := registered_empty
  wellFormed := wellFormed_empty
  hashed := by
    intro value stored
    cases stored

theorem verifiable (regular : m.Regular config) : m.Verifiable := by
  intro value stored password
  obtain ⟨bound, salt, digest, rfl⟩ := regular.hashed value stored
  exact ⟨_, Stored.matching_compose password config.iterations_pos bound salt digest⟩

/-- If hashing refuses the iterations, nobody is registered. -/
theorem values_eq_nil (regular : m.Regular config)
    (excess : ¬config.hashIterations ≤ Hash.Pbkdf2.maxIterations) : m.users.values = [] :=
  List.eq_nil_iff_forall_not_mem.mpr fun value stored => excess (regular.hashed value stored).1

/-- Only one rule depends on the salts. -/
theorem holds (regular : m.Regular config) {rule : Rule}
    (unique : rule = .hashesUnique → m.users.values.Nodup) : rule.Holds m := by
  cases rule with
  | sessionsRegistered => exact regular.registered
  | passwordsHashed =>
      intro value stored
      obtain ⟨-, salt, digest, rfl⟩ := regular.hashed value stored
      exact ⟨_, rfl⟩
  | hashesUnique => exact unique rfl
  | identifiersWellFormed => exact regular.wellFormed

theorem insert_user (regular : m.Regular config) {user : String} {password : Password}
    {salt : List UInt8} {hash : PasswordHash} (formed : UserId.WellFormed user)
    (absent : user ∉ m.users) (hashed : password.hash salt config.hashIterations = .ok hash) :
    Regular config ⟨m.users.insert user (.hashed hash), m.sessions⟩ where
  registered := registered_insert_user regular.registered user _
  wellFormed := wellFormed_insert_user regular.wellFormed formed _
  hashed := by
    intro value stored
    rw [Directory.values_insert absent, List.mem_append, List.mem_singleton] at stored
    rcases stored with before | rfl
    · exact regular.hashed value before
    · obtain ⟨⟨-, bound⟩, rfl⟩ := Password.eq_compose_of_hash_eq hashed
      exact ⟨bound, salt, _, rfl⟩

end Memory.Regular

/-- Nothing can be armed where there is no guard. -/
theorem Backend.outcome_rearm_unguarded {p : Progress} (bare : p.backend.guards = [])
    (depth : Nat) (request : String) (change : Roster FailPoint → Roster FailPoint) :
    (Backend.rearm depth request change).outcome p = (.error (.noFailPoints request), p) := by
  rw [outcome_rearm, updateGuard?, bare, List.length_nil, if_neg (Nat.not_lt_zero depth)]

namespace Store

theorem Effect.regular {config : Config} {salts : SaltSource} {p p' : Progress} {call : Call}
    {result : Except Failure Value} (effect : Effect config salts p call result p')
    (before : p.backend.memory.Regular config) : p'.backend.memory.Regular config := by
  cases effect with
  | failed backend | looked backend =>
      rw [backend]
      exact before
  | registered formed absent hashed backend =>
      rw [backend]
      exact before.insert_user formed (Directory.get?_eq_none_iff.mp absent) hashed
  | opened read found matching backend =>
      have known := Directory.get?_isSome_iff.mp (Option.isSome_of_eq_some found)
      rw [backend]
      exact ⟨Memory.registered_insert_session before.registered known, before.wellFormed,
        before.hashed⟩
  | closed formed backend =>
      rw [backend]
      exact ⟨Memory.registered_erase_session before.registered _, before.wellFormed, before.hashed⟩

theorem regular_acted {s : Store} (sound : s.backend.defects = .none)
    (regular : s.backend.memory.Regular s.config) (action : Action) :
    (s.acted action).backend.memory.Regular s.config := by
  rcases s.act_call_or_guards action with ⟨call, rfl⟩ | ⟨guards, changed⟩
  · exact (effect_outcome s.config s.salts (p := s.progress) sound call).regular regular
  · rw [Store.acted, changed]
    exact regular

/-- After every run a memory is regular. -/
theorem regular_run {config : Config} (salts : SaltSource) (guards : List (Roster FailPoint))
    (actions : List Action) :
    (actions.foldl acted (blank config salts guards)).backend.memory.Regular config := by
  have kept := @history_induction _ _ acted
    (fun _ (s : Store) => s.Used config salts ∧ s.backend.memory.Regular config)
    (blank config salts guards) ⟨used_blank config salts guards, .empty config⟩ ?_ actions
  · exact kept.2
  · rintro _ s action ⟨used, regular⟩
    refine ⟨used.acted action, ?_⟩
    have settings := used.config_eq
    subst settings
    exact regular_acted used.defects regular action

theorem guards_acted {s : Store} (sound : s.backend.defects = .none) (bare : s.backend.guards = [])
    (action : Action) : (s.acted action).backend.guards = [] := by
  have rearmed (depth : Nat) (request : String) (change : Roster FailPoint → Roster FailPoint) :=
    Backend.outcome_rearm_unguarded (p := s.progress) bare depth request change
  cases action with
  | call call => exact (guards_acted_of_call sound call).trans bare
  | arm name =>
      show ((Backend.arm 0 name).outcome s.progress).2.backend.guards = []
      rw [Backend.arm]
      cases FailPoint.ofName? name with
      | some point =>
          rw [Activity.outcome_bind_of_error (rearmed 0 "arm" _)]
          exact bare
      | none =>
          rw [Activity.outcome_bind_of_error (rearmed 0 "arm" _)]
          exact bare
  | disarm name =>
      show ((Backend.disarm 0 name).outcome s.progress).2.backend.guards = []
      rw [Backend.disarm, rearmed]
      exact bare
  | reset =>
      show ((Backend.reset 0).outcome s.progress).2.backend.guards = []
      rw [Backend.reset, rearmed]
      exact bare

/-- A store without guards never gets one. -/
theorem guards_run (config : Config) (salts : SaltSource) (actions : List Action) :
    (actions.foldl acted (blank config salts [])).backend.guards = [] := by
  have kept := @history_induction _ _ acted
    (fun _ (s : Store) => s.Used config salts ∧ s.backend.guards = [])
    (blank config salts []) ⟨used_blank config salts [], rfl⟩ ?_ actions
  · exact kept.2
  · rintro _ s action ⟨used, bare⟩
    exact ⟨used.acted action, guards_acted used.defects bare action⟩

/-- No two users have one hash for as long as no salt is drawn twice. -/
theorem nodup_values_run {config : Config} {salts : SaltSource} (guards : List (Roster FailPoint))
    (actions : List Action)
    (distinct : salts.Distinct config.saltBytes
      (actions.foldl acted (blank config salts guards)).draws) :
    (actions.foldl acted (blank config salts guards)).backend.memory.users.values.Nodup := by
  by_cases bound : config.hashIterations ≤ Hash.Pbkdf2.maxIterations
  · exact (sound_run guards actions bound distinct).memory.unique
  · have regular := @regular_run config salts guards actions
    generalize (actions.foldl acted (blank config salts guards)).backend.memory = m at regular ⊢
    rw [regular.values_eq_nil bound]
    exact List.nodup_nil

end Store

end Gatekeeper
