import Gatekeeper.Proofs.Simulation.Divergence
import Gatekeeper.Proofs.Simulation.Refinement
import Gatekeeper.Proofs.Store.Sound
import Gatekeeper.Simulation.Replay

/-!
# Replays raise no false alarm

A replay on the store of simulations ends without a divergence: at every step the
two sides agree, and the store keeps every rule.  The users and passwords of the
operations may be any texts; a login line is plain, whatever is in it, since it
holds the separator between the two.
-/

namespace Gatekeeper

open Run

namespace Lockstep

def applied (l : Lockstep) (op : Operation) : Lockstep := (l.apply op).2

/-! ## Questions -/

theorem separator_mem_loginLine (user password : String) :
    separator ∈ (loginLine user password).toList := by
  simp [loginLine]

/-- What is asked for an operation can be answered by both sides if the template can be filled in
for whom it asks a secret. -/
theorem question_admissible_of_renders (l : Lockstep) {config : Config} {op : Operation}
    (armable : ∀ name, op = .fail name → ∃ point : FailPoint, name = point.name)
    (renders : ∀ user, op = .accessSecret user →
      ∃ message, Template.render config.secretTemplate user = .ok message) :
    Admissible config (l.question op) := by
  cases op with
  | register user password => trivial
  | loginRight user =>
      exact Credentials.plain_of_separator_mem (separator_mem_loginLine user _)
  | loginWrong user =>
      exact Credentials.plain_of_separator_mem (separator_mem_loginLine user _)
  | logout user => trivial
  | accessSecret user => exact renders user rfl
  | fail name => exact armable name rfl

theorem question_admissible (l : Lockstep) {op : Operation}
    (armable : ∀ name, op = .fail name → ∃ point : FailPoint, name = point.name) :
    Admissible .simulation (l.question op) :=
  l.question_admissible_of_renders armable fun user _ => ⟨_, Template.render_standard user⟩

/-! ## Stores -/

theorem store_pose (l : Lockstep) (question : Oracle.Question) :
    (l.pose question).2.store = (l.store.act question.action).store := by
  cases acted : Outcome.ofResult (l.store.act question.action).result with
  | error failure => rw [pose_of_error acted]
  | ok actual => rw [pose_of_ok acted]

theorem brokenRules_eq_nil {l : Lockstep}
    (keeps : ∀ rule : Rule, rule.Holds l.store.backend.memory) : l.brokenRules = [] := by
  have passed : (Report.ofMemory l.store.backend.memory).passed = true :=
    Report.passed_ofMemory.mpr keeps
  rw [brokenRules, List.map_eq_nil_iff, Report.failures, List.filter_eq_nil_iff]
  intro verdict reported
  have verdict_passed := List.all_eq_true.mp passed verdict reported
  simp [verdict_passed]

/-! ## Divergences -/

theorem divergenceFrom_eq_none {l : Lockstep} {ops : List Operation} (index : Nat)
    (agree : ∀ stage ∈ stages applied l ops,
      ∃ outcome, (stage.1.apply stage.2).1 = .ok ⟨outcome, outcome⟩)
    (keeps : ∀ stage ∈ stages applied l ops,
      ∀ rule : Rule, rule.Holds (stage.1.applied stage.2).store.backend.memory) :
    l.divergenceFrom index ops = .ok none := by
  rw [divergenceFrom_subject]
  refine (subject.divergenceFrom_eq_none_iff index l ops).mpr fun stage reached => ?_
  obtain ⟨outcome, same⟩ := agree stage reached
  exact ⟨⟨outcome, outcome⟩, same, rfl, brokenRules_eq_nil (keeps stage reached)⟩

/-! ## Replays -/

def simulated (salts : SaltSource) : Lockstep := start { simulatedStore with salts }

structure SteadyUnder (config : Config) (salts : SaltSource) (l : Lockstep) : Prop where
  aligned : Aligned config l
  sound : l.store.Sound
  salts_eq : l.store.salts = salts

theorem steady_start (config : Config) (salts : SaltSource) :
    SteadyUnder config salts (start { config, salts, backend := .guarded }) where
  aligned := Aligned.start config salts
  sound := ⟨rfl, Memory.Sound.empty config salts 0⟩
  salts_eq := rfl

theorem SteadyUnder.applied {config : Config} {salts : SaltSource} {l : Lockstep}
    (steady : SteadyUnder config salts l)
    (bound : config.hashIterations ≤ Hash.Pbkdf2.maxIterations) {op : Operation}
    (admissible : Admissible config (l.question op))
    (distinct : salts.Distinct config.saltBytes (l.applied op).store.draws)
    (discerns : l.Discerns (l.question op)) :
    (∃ outcome, (l.apply op).1 = .ok ⟨outcome, outcome⟩) ∧
      SteadyUnder config salts (l.applied op) := by
  obtain ⟨outcome, agree, aligned⟩ :=
    matches_of_admissible steady.aligned bound admissible discerns
  have store : (l.applied op).store = (l.store.act (l.question op).action).store :=
    store_pose l (l.question op)
  refine ⟨⟨outcome, agree⟩, aligned, ?_, ?_⟩
  · rw [store]
    rw [store] at distinct
    refine steady.sound.act ?_ _ ?_
    · rw [steady.aligned.config_eq]
      exact bound
    · rw [steady.aligned.config_eq, steady.salts_eq]
      exact distinct
  · rw [store, Store.act_salts]
    exact steady.salts_eq

abbrev Steady (salts : SaltSource) : Lockstep → Prop := SteadyUnder .simulation salts

theorem steady_simulated (salts : SaltSource) : Steady salts (simulated salts) :=
  steady_start .simulation salts

theorem Steady.applied {salts : SaltSource} {l : Lockstep} (steady : Steady salts l)
    {op : Operation}
    (armable : ∀ name, op = .fail name → ∃ point : FailPoint, name = point.name)
    (distinct : salts.Distinct Config.simulation.saltBytes (l.applied op).store.draws)
    (discerns : l.Discerns (l.question op)) :
    (∃ outcome, (l.apply op).1 = .ok ⟨outcome, outcome⟩) ∧ Steady salts (l.applied op) :=
  SteadyUnder.applied steady (by decide) (l.question_admissible armable) distinct discerns

theorem draws_applied_bounds {l : Lockstep} (sound : l.store.backend.defects = .none)
    (op : Operation) :
    (l.applied op).store.backend.defects = .none ∧
      l.store.draws ≤ (l.applied op).store.draws ∧
      (l.applied op).store.draws ≤ l.store.draws + 1 := by
  have store : (l.applied op).store = (l.store.act (l.question op).action).store :=
    store_pose l (l.question op)
  rw [store]
  exact ⟨Store.act_defects sound _, Store.draws_act_bounds sound _⟩

/-- Salts that are drawn during a replay are drawn by its end. -/
theorem draws_le_final (salts : SaltSource) (ops : List Operation) :
    ∀ stage ∈ stages applied (simulated salts) ops,
      (stage.1.applied stage.2).store.draws ≤
        (ops.foldl applied (simulated salts)).store.draws := by
  refine next_le_foldl (fun l : Lockstep => l.store.backend.defects = .none)
    (fun l => l.store.draws) ?_ rfl
  intro l op sound
  have bounds := draws_applied_bounds sound op
  exact ⟨bounds.1, bounds.2.1⟩

/-- The counter draws no salt twice in a replay of fewer operations than there are salts. -/
theorem counter_distinct_of_few {ops : List Operation}
    (few : ops.length < Nat.pow 256 Config.simulation.saltBytes) :
    SaltSource.counter.Distinct Config.simulation.saltBytes
      (ops.foldl applied (simulated .counter)).store.draws := by
  have drawn : (ops.foldl applied (simulated .counter)).store.draws ≤ 0 + ops.length := by
    refine foldl_le_add_length (fun l : Lockstep => l.store.backend.defects = .none)
      (fun l => l.store.draws) ?_ rfl ops
    intro l op sound
    have bounds := draws_applied_bounds sound op
    exact ⟨bounds.1, bounds.2.2⟩
  exact SaltSource.counter_distinct (by omega)

/-- Every replay ends without a divergence and without a failure; at each of its steps the two
sides agree and all rules hold. -/
theorem replay_eq_none (salts : SaltSource) (ops : List Operation)
    (armable : ∀ name, .fail name ∈ ops → ∃ point : FailPoint, name = point.name)
    (distinct : salts.Distinct Config.simulation.saltBytes
      (ops.foldl applied (simulated salts)).store.draws)
    (discerns : ∀ stage ∈ stages applied (simulated salts) ops,
      stage.1.Discerns (stage.1.question stage.2)) :
    replay { simulatedStore with salts } ops = .ok none ∧
      ∀ stage ∈ stages applied (simulated salts) ops,
        (∃ outcome, (stage.1.apply stage.2).1 = .ok ⟨outcome, outcome⟩) ∧
          ∀ rule : Rule, rule.Holds (stage.1.applied stage.2).store.backend.memory := by
  have steps : ∀ stage ∈ stages applied (simulated salts) ops,
      (∃ outcome, (stage.1.apply stage.2).1 = .ok ⟨outcome, outcome⟩) ∧
        ∀ rule : Rule, rule.Holds (stage.1.applied stage.2).store.backend.memory := by
    refine stages_induction (Steady salts)
      (fun l op => (∀ name, op = .fail name → ∃ point : FailPoint, name = point.name) ∧
        salts.Distinct Config.simulation.saltBytes (l.applied op).store.draws ∧
        l.Discerns (l.question op))
      (fun l op => (∃ outcome, (l.apply op).1 = .ok ⟨outcome, outcome⟩) ∧
        ∀ rule : Rule, rule.Holds (l.applied op).store.backend.memory)
      ?_ (steady_simulated salts) ?_
    · intro l op steady allowed
      obtain ⟨agree, after⟩ := steady.applied allowed.1 allowed.2.1 allowed.2.2
      exact ⟨⟨agree, after.sound.memory.holds⟩, after⟩
    · intro stage reached
      refine ⟨?_, distinct.mono (draws_le_final salts ops stage reached),
        discerns stage reached⟩
      intro name failing
      exact armable name (failing ▸ mem_of_mem_stages reached)
  refine ⟨?_, steps⟩
  exact divergenceFrom_eq_none 0 (fun stage reached => (steps stage reached).1)
    (fun stage reached => (steps stage reached).2)

/-- A user whose password is a line of its own, so that a login for an identifier with the
separator in it is a login of that user. -/
def strangers : List Operation := [.register "Bob" "a:hunter2", .fail FailPoint.hasSession.name,
  .accessSecret "Bob", .loginRight "Bob:a"]

theorem replay_eq_none_strangers :
    (∀ stage ∈ stages applied (simulated .counter) strangers,
      stage.1.Discerns (stage.1.question stage.2)) ∧
    replay { simulatedStore with salts := .counter } strangers = .ok none := by
  have discerns : ∀ stage ∈ stages applied (simulated .counter) strangers,
      stage.1.Discerns (stage.1.question stage.2) := by
    decide +kernel
  have armable : ∀ name, .fail name ∈ strangers → ∃ point : FailPoint, name = point.name := by
    intro name failing
    simp only [strangers, List.mem_cons, List.not_mem_nil, or_false, reduceCtorEq, false_or,
      Operation.fail.injEq] at failing
    exact ⟨.hasSession, failing⟩
  have distinct := counter_distinct_of_few (show strangers.length < _ by decide)
  have replayed := (replay_eq_none .counter strangers armable distinct discerns).1
  exact ⟨discerns, replayed⟩

end Lockstep

end Gatekeeper
