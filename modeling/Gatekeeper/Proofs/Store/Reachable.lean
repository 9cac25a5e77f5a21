import Gatekeeper.Proofs.Run
import Gatekeeper.Proofs.Store.Refusal

/-!
# Stores that are used from the beginning

Whatever is done to a store that starts out empty, and whether it succeeds or not,
every rule holds afterwards.  All stored values are hashes that can be compared with
any password, so a login never fails for what is stored.
-/

namespace Gatekeeper

open Run

/-- Settings under which hashing takes one iteration. -/
def Config.fast : Config :=
  { standard with hashIterations := 1, iterations_pos := Nat.one_pos }

namespace Store

/-- A store into which nothing was written yet, behind guards on which anything is armed. -/
def blank (config : Config) (salts : SaltSource) (guards : List (Roster FailPoint)) : Store :=
  { config, salts, backend := { guards } }

def acted (s : Store) (action : Action) : Store := (s.act action).store

theorem acted_config (s : Store) (action : Action) : (s.acted action).config = s.config := by
  cases action <;> rfl

theorem guards_acted_of_call {s : Store} (sound : s.backend.defects = .none) (call : Call) :
    (s.acted (.call call)).backend.guards = s.backend.guards := by
  have effect := effect_outcome s.config s.salts (p := s.progress) sound call
  have kept : ((activity s.config s.salts call).outcome s.progress).2.backend.guards =
      s.progress.backend.guards := by
    generalize ((activity s.config s.salts call).outcome s.progress).1 = result at effect
    cases effect with
    | failed backend => rw [backend]
    | looked backend => rw [backend]
    | registered _ _ _ backend => rw [backend]
    | opened _ _ _ backend => rw [backend]
    | closed _ backend => rw [backend]
  exact kept

def Unarmed (s : Store) : Prop := ∀ point, s.backend.isArmed point = false

theorem unarmed_of_unguarded {s : Store} (bare : s.backend.guards = []) : s.Unarmed := by
  intro point
  rw [Backend.isArmed, bare]
  rfl

theorem Unarmed.acted_call {s : Store} (unarmed : s.Unarmed) (sound : s.backend.defects = .none)
    (call : Call) : (s.acted (.call call)).Unarmed := by
  intro point
  rw [Backend.isArmed, guards_acted_of_call sound call]
  exact unarmed point

/-- What holds of every store that was only used through its actions. -/
structure Used (config : Config) (salts : SaltSource) (s : Store) : Prop where
  config_eq : s.config = config
  salts_eq : s.salts = salts
  defects : s.backend.defects = .none

theorem used_blank (config : Config) (salts : SaltSource) (guards : List (Roster FailPoint)) :
    (blank config salts guards).Used config salts := ⟨rfl, rfl, rfl⟩

theorem Used.acted {config : Config} {salts : SaltSource} {s : Store} (used : s.Used config salts)
    (action : Action) : (s.acted action).Used config salts where
  config_eq := (acted_config s action).trans used.config_eq
  salts_eq := (act_salts s action).trans used.salts_eq
  defects := act_defects used.defects action

theorem Used.run {config : Config} {salts : SaltSource} {s : Store} (used : s.Used config salts)
    (actions : List Action) : (actions.foldl Store.acted s).Used config salts :=
  history_induction (fun _ (s : Store) => s.Used config salts) used
    (fun _ _ action used => used.acted action) actions

theorem used_run {config : Config} {salts : SaltSource} (guards : List (Roster FailPoint))
    (actions : List Action) : (actions.foldl acted (blank config salts guards)).Used config salts :=
  (used_blank config salts guards).run actions

/-- A store stays sound for as long as no salt is drawn twice. -/
theorem sound_run {config : Config} {salts : SaltSource} (guards : List (Roster FailPoint))
    (actions : List Action) (bound : config.hashIterations ≤ Hash.Pbkdf2.maxIterations)
    (distinct : salts.Distinct config.saltBytes
      (actions.foldl acted (blank config salts guards)).draws) :
    (actions.foldl acted (blank config salts guards)).Sound := by
  have kept := @history_induction _ _ acted
    (fun _ (s : Store) => s.Used config salts ∧ (salts.Distinct config.saltBytes s.draws → s.Sound))
    (blank config salts guards) ?_ ?_ actions
  · exact kept.2 distinct
  · exact ⟨used_blank config salts guards, fun _ => ⟨rfl, .empty config salts 0⟩⟩
  · rintro _ s action ⟨used, sound⟩
    refine ⟨used.acted action, fun distinct => ?_⟩
    -- The salts that differ after the action differ before it.
    have earlier := (draws_act_bounds used.defects action).1
    refine (sound (distinct.mono earlier)).act ?_ action ?_
    · rw [used.config_eq]
      exact bound
    · rw [used.config_eq, used.salts_eq]
      exact distinct

theorem draws_run_le (config : Config) (salts : SaltSource) (guards : List (Roster FailPoint))
    (actions : List Action) :
    (actions.foldl acted (blank config salts guards)).draws ≤ actions.length := by
  have drawn := @foldl_le_add_length _ _ acted (fun s => s.backend.defects = .none)
    (fun s => s.draws) ?_ (blank config salts guards) rfl actions
  · have none_yet : (blank config salts guards).draws = 0 := rfl
    omega
  · intro s action sound
    exact ⟨act_defects sound action, (draws_act_bounds sound action).2⟩

theorem Sound.hasOutcome_login {s : Store} (sound : s.Sound)
    (bound : s.config.hashIterations ≤ Hash.Pbkdf2.maxIterations) (presented : Presented) :
    HasOutcome (s.act (.call (.login presented))).result :=
  hasOutcome_call sound.defects bound (sound.memory.verifiable bound) nofun

/-- After every run each rule holds, each stored value is a hash that every password can be
compared with, and a login ends with an answer or a refusal. -/
theorem rules_hold_after_run (config : Config) (salts : SaltSource)
    (guards : List (Roster FailPoint)) (actions : List Action)
    (bound : config.hashIterations ≤ Hash.Pbkdf2.maxIterations)
    (distinct : salts.Distinct config.saltBytes
      (actions.foldl acted (blank config salts guards)).draws) :
    let s := actions.foldl acted (blank config salts guards)
    (∀ rule : Rule, rule.Holds s.backend.memory) ∧
      (Report.ofMemory s.backend.memory).passed = true ∧
      (∀ value ∈ s.backend.memory.users.values, ∃ hash, value = .hashed hash ∧
        ∀ password, ∃ equal, hash.verify password = .ok equal) ∧
      ∀ presented failure, (s.act (.call (.login presented))).result = .error failure →
        ∃ refusal, failure = .refused refusal := by
  intro s
  have sound : s.Sound := sound_run guards actions bound distinct
  have bound : s.config.hashIterations ≤ Hash.Pbkdf2.maxIterations := by
    rw [(used_run guards actions).config_eq]
    exact bound
  have holds := sound.memory.holds
  refine ⟨holds, Report.passed_ofMemory.mpr holds, ?_, ?_⟩
  · intro value stored
    obtain ⟨number, kept, -, -, rfl⟩ := sound.memory.hashed value stored
    exact ⟨_, rfl, fun password =>
      ⟨_, PasswordHash.verify_compose password s.config.iterations_pos bound _ _⟩⟩
  · intro presented
    exact hasOutcome_iff.mp (sound.hasOutcome_login bound presented)

def disturbed : List Action := [.call (.register "Bob" ⟨"pw"⟩), .call (.register "Carol" ⟨"pw"⟩),
  .call (.login (.line "Bob:pw")), .arm "db.register", .arm "db.remove_session",
  .call (.register "Dave" ⟨"pw"⟩), .call (.logout "Bob")]

theorem rules_hold_after_run_disturbed :
    let s := disturbed.foldl acted (blank .fast .counter [.empty])
    s.backend.memory.users.keys = ["Bob", "Carol"] ∧ s.backend.memory.sessions.members = ["Bob"] ∧
      SaltSource.counter.Distinct Config.fast.saltBytes s.draws ∧
      (Report.ofMemory s.backend.memory).passed = true := by
  have reached : (disturbed.foldl acted (blank .fast .counter [.empty])).backend.memory.users.keys =
        ["Bob", "Carol"] ∧
      (disturbed.foldl acted (blank .fast .counter [.empty])).backend.memory.sessions.members =
        ["Bob"] := by
    decide +kernel
  have few := draws_run_le .fast .counter [.empty] disturbed
  have distinct := SaltSource.counter_distinct
    (Nat.lt_of_le_of_lt few (show disturbed.length < Nat.pow 256 Config.fast.saltBytes by decide))
  have holds := rules_hold_after_run .fast .counter [.empty] disturbed (by decide) distinct
  -- Otherwise the store that is reached would be computed.
  generalize disturbed.foldl acted (blank .fast .counter [.empty]) = s at reached distinct holds ⊢
  exact ⟨reached.1, reached.2, distinct, holds.2.1⟩

end Store

end Gatekeeper
