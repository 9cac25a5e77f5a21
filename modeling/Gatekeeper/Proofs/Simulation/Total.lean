import Gatekeeper.Proofs.Simulation.Divergence
import Gatekeeper.Proofs.Simulation.Generator
import Gatekeeper.Proofs.Simulation.Replay
import Gatekeeper.Proofs.Store.History

/-!
# Replays that do not fail

On a store behind a guard, whose stored values can be compared and whose template can
be filled in, every replay of drawable operations ends with an answer.  It may diverge,
but it never fails.
-/

namespace Gatekeeper

/-! ## The oracle -/

namespace Oracle

open Lockstep (Admissible)

/-- The oracle has an outcome for every question that its template does not fail on. -/
theorem ask_answers (o : Oracle) {config : Config} (template : o.template = config.secretTemplate)
    {question : Question} (admissible : Admissible config question) :
    HasOutcome (o.ask question).1 ∧ (o.ask question).2.template = config.secretTemplate := by
  cases question with
  | register user password =>
      rw [ask_register]
      split
      · split
        · exact ⟨hasOutcome_refused _, template⟩
        · split
          · exact ⟨hasOutcome_refused _, template⟩
          · split
            · exact ⟨hasOutcome_refused _, template⟩
            · exact ⟨hasOutcome_ok _, template⟩
      · exact ⟨hasOutcome_refused _, template⟩
  | login line =>
      rw [ask_login]
      split
      · exact ⟨hasOutcome_refused _, template⟩
      · split
        · split
          · exact ⟨hasOutcome_refused _, template⟩
          · split
            · split
              · exact ⟨hasOutcome_refused _, template⟩
              · exact ⟨hasOutcome_ok _, template⟩
            · exact ⟨hasOutcome_ok _, template⟩
        · exact ⟨hasOutcome_refused _, template⟩
  | logout user =>
      rw [ask_logout]
      split
      · split
        · exact ⟨hasOutcome_refused _, template⟩
        · exact ⟨hasOutcome_ok _, template⟩
      · exact ⟨hasOutcome_refused _, template⟩
  | accessSecret user =>
      obtain ⟨message, rendered⟩ := admissible
      rw [ask_accessSecret, template, rendered]
      split
      · split
        · exact ⟨hasOutcome_refused _, template⟩
        · split
          · exact ⟨hasOutcome_ok _, template⟩
          · exact ⟨hasOutcome_refused _, template⟩
      · exact ⟨hasOutcome_refused _, template⟩
  | arm name =>
      obtain ⟨point, rfl⟩ := admissible
      rw [ask_arm]
      exact ⟨hasOutcome_ok _, template⟩

end Oracle

/-! ## The store -/

namespace Store

theorem verifiable_acted {s : Store} (sound : s.backend.defects = .none)
    (verifiable : s.backend.memory.Verifiable) (action : Action) :
    (s.acted action).backend.memory.Verifiable := by
  rcases users_acted_cases sound action with ⟨kept, -⟩ |
    ⟨user, password, hash, salt, -, absent, hashed, inserted⟩
  · rw [Memory.Verifiable, kept]
    exact verifiable
  · obtain ⟨⟨positive, bound⟩, rfl⟩ := Password.eq_compose_of_hash_eq hashed
    rw [Memory.Verifiable, inserted, Directory.values_insert absent]
    intro value stored
    rcases List.mem_append.mp stored with known | entered
    · exact verifiable value known
    · rw [List.mem_singleton.mp entered]
      exact fun other => ⟨_, Stored.matching_compose other positive bound _ _⟩

/-- A fail point is armed on the outermost guard. -/
theorem act_arm {s : Store} (guarded : 0 < s.backend.guards.length) (point : FailPoint) :
    (s.act (.arm point.name)).result = .ok .done ∧
      (s.acted (.arm point.name)).backend =
        { s.backend with guards := s.backend.guards.modify 0 (·.insert point) } := by
  have armed := Backend.outcome_arm 0 point s.progress
  rw [Backend.updateGuard?, if_pos (by exact guarded)] at armed
  rw [acted, act, run_eq, armed]
  exact ⟨rfl, rfl⟩

end Store

namespace Lockstep

/-! ## Both sides -/

theorem pose_of_hasOutcome {l : Lockstep} {question : Oracle.Question}
    (actual : HasOutcome (l.store.act question.action).result)
    (expected : HasOutcome (l.oracle.ask question).1) :
    ∃ outcomes, l.pose question =
      (.ok outcomes, ⟨l.store.acted question.action, (l.oracle.ask question).2⟩) := by
  obtain ⟨actual, acted⟩ := actual
  obtain ⟨expected, asked⟩ := expected
  refine ⟨⟨actual, expected⟩, ?_⟩
  rw [pose_of_ok acted, asked]
  rfl

structure Ready (config : Config) (l : Lockstep) : Prop where
  config_eq : l.store.config = config
  defects : l.store.backend.defects = .none
  guarded : 0 < l.store.backend.guards.length
  verifiable : l.store.backend.memory.Verifiable
  template : l.oracle.template = config.secretTemplate

theorem Ready.act_call {config : Config} {l : Lockstep} (ready : Ready config l)
    (bound : config.hashIterations ≤ Hash.Pbkdf2.maxIterations) {call : Call}
    (renders : ∀ user, call = .accessSecret user →
      ∃ message, Template.render config.secretTemplate user = .ok message) :
    HasOutcome (l.store.act (.call call)).result ∧
      0 < (l.store.acted (.call call)).backend.guards.length := by
  rw [← ready.config_eq] at bound renders
  refine ⟨Store.hasOutcome_call ready.defects bound ready.verifiable renders, ?_⟩
  rw [Store.guards_acted_of_call ready.defects]
  exact ready.guarded

theorem Ready.act_question {config : Config} {l : Lockstep} (ready : Ready config l)
    (bound : config.hashIterations ≤ Hash.Pbkdf2.maxIterations) {question : Oracle.Question}
    (admissible : Admissible config question) :
    HasOutcome (l.store.act question.action).result ∧
      0 < (l.store.acted question.action).backend.guards.length := by
  cases question with
  | register user password => exact ready.act_call bound nofun
  | login line => exact ready.act_call bound nofun
  | logout user => exact ready.act_call bound nofun
  | accessSecret user =>
      refine ready.act_call bound ?_
      rintro _ ⟨⟩
      exact admissible
  | arm name =>
      obtain ⟨point, rfl⟩ := admissible
      obtain ⟨result, backend⟩ := Store.act_arm ready.guarded point
      rw [Oracle.Question.action, result, backend, List.length_modify]
      exact ⟨hasOutcome_ok _, ready.guarded⟩

theorem Ready.pose {config : Config} {l : Lockstep} (ready : Ready config l)
    (bound : config.hashIterations ≤ Hash.Pbkdf2.maxIterations) {question : Oracle.Question}
    (admissible : Admissible config question) :
    ∃ outcomes after, l.pose question = (.ok outcomes, after) ∧ Ready config after := by
  have oracle := l.oracle.ask_answers ready.template admissible
  have store := ready.act_question bound admissible
  obtain ⟨outcomes, posed⟩ := pose_of_hasOutcome store.1 oracle.1
  refine ⟨outcomes, _, posed, ?_, ?_, store.2, ?_, oracle.2⟩
  · exact (Store.acted_config _ _).trans ready.config_eq
  · exact Store.act_defects ready.defects _
  · exact Store.verifiable_acted ready.defects ready.verifiable _

/-- A question about a drawable operation can be answered if the template can be filled in. -/
theorem admissible_of_drawable (l : Lockstep) {config : Config}
    (renders : ∀ user ∈ Operation.users,
      ∃ message, Template.render config.secretTemplate user = .ok message)
    {op : Operation} (drawable : op.Drawable) : Admissible config (l.question op) := by
  refine l.question_admissible_of_renders ?_ ?_
  · rintro name rfl
    obtain ⟨point, same⟩ := drawable
    exact ⟨point, same.symm⟩
  · rintro user rfl
    exact renders user drawable

/-- A replay does not fail if no step of it can and each leaves an invariant. -/
theorem exists_divergenceFrom (Invariant : Lockstep → Prop) (Allowed : Operation → Prop)
    (step : ∀ l op, Invariant l → Allowed op →
      ∃ outcomes after, l.apply op = (.ok outcomes, after) ∧ Invariant after)
    {l : Lockstep} (holds : Invariant l) {ops : List Operation}
    (within : Shrink.Within Allowed ops) (index : Nat) :
    ∃ verdict, l.divergenceFrom index ops = .ok verdict := by
  rw [divergenceFrom_subject]
  refine subject.exists_divergenceFrom ?_ index
  refine Run.stages_induction Invariant (fun _ op => Allowed op)
    (fun l op => ∃ outcomes, (subject.apply l op).1 = .ok outcomes) (fun l op holds allowed => ?_)
    holds fun stage reached => within stage.2 (Run.mem_of_mem_stages reached)
  obtain ⟨outcomes, after, applied, holds'⟩ := step l op holds allowed
  have left : subject.next l op = after := congrArg Prod.snd applied
  exact ⟨⟨outcomes, congrArg Prod.fst applied⟩, left ▸ holds'⟩

theorem Ready.divergenceFrom {config : Config} {l : Lockstep} (ready : Ready config l)
    (bound : config.hashIterations ≤ Hash.Pbkdf2.maxIterations)
    (renders : ∀ user ∈ Operation.users,
      ∃ message, Template.render config.secretTemplate user = .ok message)
    {ops : List Operation} (drawable : Shrink.Within Operation.Drawable ops) (index : Nat) :
    ∃ verdict, l.divergenceFrom index ops = .ok verdict :=
  exists_divergenceFrom (Ready config) Operation.Drawable
    (fun l _ ready drawable => ready.pose bound (l.admissible_of_drawable renders drawable))
    ready drawable index

end Lockstep

theorem exists_replay {fresh : Store} (sound : fresh.backend.defects = .none)
    (guarded : 0 < fresh.backend.guards.length) (verifiable : fresh.backend.memory.Verifiable)
    (bound : fresh.config.hashIterations ≤ Hash.Pbkdf2.maxIterations)
    (renders : ∀ user ∈ Operation.users,
      ∃ message, Template.render fresh.config.secretTemplate user = .ok message)
    {ops : List Operation} (drawable : Shrink.Within Operation.Drawable ops) :
    ∃ verdict, replay fresh ops = .ok verdict := by
  have ready : Lockstep.Ready fresh.config (.start fresh) := ⟨rfl, sound, guarded, verifiable, rfl⟩
  exact ready.divergenceFrom bound renders drawable 0

end Gatekeeper
