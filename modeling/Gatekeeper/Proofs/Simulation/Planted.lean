import Gatekeeper.Proofs.Simulation.Admission
import Gatekeeper.Proofs.Simulation.Total
import Gatekeeper.Proofs.Store.Overwrite

/-!
# Replays with the defect planted

A store that overwrites its first user answers as a sound store does, so a replay on it
never fails.  Until a fifth user is entered, it is what the sound store is, with the
defect planted; the registration that enters a fifth user leaves two users with one
hash, and so a replay diverges there, and at no other operation.
-/

namespace Gatekeeper

open Operation
open Gatekeeper.Shrink

namespace Lockstep

/-! ## Both sides with the defect planted -/

def planted (l : Lockstep) : Lockstep := ⟨l.store.planted, l.oracle⟩

theorem pose_congr {l m : Lockstep} {question : Oracle.Question} (oracle : m.oracle = l.oracle)
    (result : (m.store.act question.action).result = (l.store.act question.action).result) :
    m.pose question =
      ((l.pose question).1, ⟨m.store.acted question.action, (l.pose question).2.oracle⟩) := by
  have same := congrArg Outcome.ofResult result
  cases acted : Outcome.ofResult (l.store.act question.action).result with
  | error failure =>
      rw [pose_of_error acted, pose_of_error (same.trans acted), oracle]
      rfl
  | ok actual =>
      rw [pose_of_ok acted, pose_of_ok (same.trans acted), oracle]
      rfl

/-- Where the store answers as one without the defect, so do both sides. -/
theorem apply_planted_of_result {l : Lockstep} {op : Operation}
    (same : (l.store.planted.act (l.question op).action).result =
      (l.store.act (l.question op).action).result) :
    l.planted.apply op =
      ((l.apply op).1, ⟨l.store.planted.acted (l.question op).action, (l.apply op).2.oracle⟩) :=
  pose_congr (l := l) rfl same

theorem oracle_of_apply_eq_ok {l : Lockstep} {op : Operation} {outcomes : Outcomes}
    (applied : (l.apply op).1 = .ok outcomes) :
    (l.applied op).oracle = (l.oracle.ask (l.question op)).2 := by
  cases acted : Outcome.ofResult (l.store.act (l.question op).action).result with
  | error failure =>
      rw [apply, pose_of_error acted] at applied
      cases applied
  | ok actual => rw [Lockstep.applied, apply, pose_of_ok acted]

end Lockstep

namespace Store

/-- Whatever is done, a store with the defect answers as one without defects, and is left in a
state in which such a store can be left with other contents. -/
theorem exists_planted {s : Store} (sound : s.backend.defects = .none)
    (bound : s.config.hashIterations ≤ Hash.Pbkdf2.maxIterations)
    (verifiable : s.backend.memory.Verifiable) (action : Action) :
    (s.planted.act action).result = (s.act action).result ∧
      ∃ memory : Memory, memory.Verifiable ∧
        s.planted.acted action =
          planted { s.acted action with backend := { (s.acted action).backend with memory } } := by
  by_cases overfills : s.Overfills action
  · match action, overfills with
    | .call (.register user password), overfills =>
        obtain ⟨result, result', acted⟩ := act_planted_of_overfills sound bound overfills
        refine ⟨result'.trans result.symm, _, ?_, acted⟩
        refine Defects.verifiable_overfilled verifiable user fun other => ?_
        exact ⟨_, Stored.matching_compose other s.config.iterations_pos bound _ _⟩
  · obtain ⟨same, acted⟩ := act_planted sound overfills
    exact ⟨same, _, verifiable_acted sound verifiable action, acted⟩

end Store

/-! ## Replays do not fail -/

theorem Operation.closedUnderSimpler_armable : ClosedUnderSimpler Armable := by
  intro op armable variant simpler
  rcases mem_simpler simpler with rfl | ⟨user, password, rfl, rfl⟩ | ⟨point, rfl, rfl⟩
  · cases op with
    | fail name => exact armable
    | _ => nofun
  · nofun
  · rintro _ ⟨⟩
    exact ⟨.register, rfl⟩

namespace Lockstep

def ReadyPlanted (config : Config) (l : Lockstep) : Prop :=
  ∃ m : Lockstep, Ready config m ∧ l = m.planted

section Replays

variable {config : Config} (bound : config.hashIterations ≤ Hash.Pbkdf2.maxIterations)
  (renders : ∀ user, ∃ message, Template.render config.secretTemplate user = .ok message)

include bound renders

theorem ReadyPlanted.apply {l : Lockstep} (ready : ReadyPlanted config l) {op : Operation}
    (armable : op.Armable) :
    ∃ outcomes after, l.apply op = (.ok outcomes, after) ∧ ReadyPlanted config after := by
  obtain ⟨m, ready, rfl⟩ := ready
  have admissible : Admissible config (m.question op) :=
    m.question_admissible_of_renders armable fun user _ => renders user
  obtain ⟨outcomes, after, applied, ready'⟩ := ready.pose bound admissible
  obtain ⟨same, memory, verifiable, acted⟩ := Store.exists_planted ready.defects
    (ready.config_eq ▸ bound) ready.verifiable (m.question op).action
  have posed : m.planted.apply op =
      ((m.pose (m.question op)).1, ⟨_, (m.pose (m.question op)).2.oracle⟩) :=
    apply_planted_of_result same
  have store : after.store = m.store.acted (m.question op).action := by
    have posed := store_pose m (m.question op)
    rwa [applied] at posed
  rw [applied] at posed
  have left := congrArg (fun s : Store => (⟨s, after.oracle⟩ : Lockstep)) acted
  refine ⟨outcomes, _, posed, ⟨⟨_, after.oracle⟩, ?_, left⟩⟩
  rw [← store]
  exact ⟨ready'.config_eq, ready'.defects, ready'.guarded, verifiable, ready'.template⟩

end Replays

/-! ## Overfilling -/

section Overfilling

variable {config : Config} {l : Lockstep}

theorem Aligned.size_eq (aligned : Aligned config l) :
    l.store.backend.memory.users.size = l.known.size := by
  have keys : l.store.backend.memory.users.keys.length = l.known.members.length :=
    congrArg List.length aligned.users
  rwa [Directory.keys, List.length_map] at keys

theorem Aligned.enters_iff (aligned : Aligned config l) {user : String} :
    l.store.progress.Enters user ↔ UserId.WellFormed user ∧ l.Admitting ∧ user ∉ l.known := by
  constructor
  · rintro ⟨formed, asking, absent, entering⟩
    exact ⟨formed, ⟨mt (aligned.isArmed_iff _).mpr asking, mt (aligned.isArmed_iff _).mpr entering⟩,
      (aligned.get?_eq_none_iff user).mp absent⟩
  · rintro ⟨formed, ⟨asking, entering⟩, new⟩
    exact ⟨formed, mt (aligned.isArmed_iff _).mp asking, (aligned.get?_eq_none_iff user).mpr new,
      mt (aligned.isArmed_iff _).mp entering⟩

/-- The store is overfilled where the oracle gets a fifth user or a later one. -/
theorem Aligned.overfills_iff (aligned : Aligned config l) {op : Operation} :
    l.store.Overfills (l.question op).action ↔
      4 ≤ l.known.size ∧ l.known.size < (l.admitted [op]).size := by
  rw [size_lt_admitted_iff]
  cases op with
  | register user password =>
      show l.store.progress.Enters user ∧ 4 ≤ l.store.backend.memory.users.size ↔ _
      rw [aligned.enters_iff, aligned.size_eq]
      simp only [registrant?_eq_some, register.injEq]
      constructor
      · rintro ⟨⟨formed, admitting, new⟩, many⟩
        exact ⟨many, user, admitting, ⟨formed, password, rfl, rfl⟩, new⟩
      · rintro ⟨many, _, admitting, ⟨formed, _, rfl, -⟩, new⟩
        exact ⟨⟨formed, admitting, new⟩, many⟩
  | _ =>
      refine ⟨False.elim, ?_⟩
      rintro ⟨-, _, -, registers, -⟩
      cases registers

end Overfilling

/-! ## What a replay goes through -/

def replayed (l : Lockstep) : List Operation → List (Lockstep × Operation)
  | [] => []
  | op :: rest =>
      (l, op) ::
        match l.apply op with
        | (.error _, _) => []
        | (.ok outcomes, after) =>
            if outcomes.Agree ∧ after.brokenRules = [] then replayed after rest else []

theorem replayed_cons_of_agree {l l' : Lockstep} {op : Operation} {outcomes : Outcomes}
    (rest : List Operation) (applied : l.apply op = (.ok outcomes, l'))
    (agree : outcomes.Agree ∧ l'.brokenRules = []) :
    l.replayed (op :: rest) = (l, op) :: l'.replayed rest := by
  rw [replayed, applied]
  dsimp only
  rw [if_pos agree]

/-- No salt is drawn a second time by an operation, and hashing tells apart the passwords that it
tries. -/
def UndisturbedBy (config : Config) (salts : SaltSource) (l : Lockstep) (op : Operation) : Prop :=
  l.Discerns (l.question op) ∧ salts.Distinct config.saltBytes (l.applied op).store.draws

theorem mem_brokenRules {l : Lockstep} {rule : Rule}
    (broken : ¬rule.Holds l.store.backend.memory) : rule.id ∈ l.brokenRules := by
  refine List.mem_map.mpr ⟨⟨rule.id, rule.name, false, rule.description⟩, ?_, rfl⟩
  refine List.mem_filter.mpr ⟨List.mem_map.mpr ⟨rule, ?_, ?_⟩, rfl⟩
  · cases rule <;> decide
  · rw [decide_eq_false broken]

/-- A divergence at the registration that enters a fifth user, beside whom another has the same
hash; `entered` says whom operations enter. -/
structure AtFifth (entered : List Operation → Roster String) (before : List Operation)
    (d : Divergence) : Prop where
  registers : ∃ user password, d.operation = .register user password
  four : (entered before).size = 4
  five : (entered (before ++ [d.operation])).size = 5
  broken : Rule.hashesUnique.id ∈ d.brokenRules

section Replays

variable {config : Config} (bound : config.hashIterations ≤ Hash.Pbkdf2.maxIterations)
  (renders : ∀ user, ∃ message, Template.render config.secretTemplate user = .ok message)

include bound renders

/-- A step that does not overfill the store is a step without the defect. -/
theorem SteadyUnder.apply_planted {salts : SaltSource} {l : Lockstep}
    (steady : SteadyUnder config salts l) {op : Operation} (armable : op.Armable)
    (undisturbed : UndisturbedBy config salts l.planted op)
    (few : ¬l.store.Overfills (l.question op).action) :
    ∃ outcome, (l.apply op).1 = .ok ⟨outcome, outcome⟩ ∧
      l.planted.apply op = (.ok ⟨outcome, outcome⟩, (l.applied op).planted) ∧
      SteadyUnder config salts (l.applied op) := by
  have admissible : Admissible config (l.question op) :=
    l.question_admissible_of_renders armable fun user _ => renders user
  obtain ⟨same, acted⟩ := Store.act_planted steady.sound.defects few
  have store : (l.applied op).store = l.store.acted (l.question op).action :=
    store_pose l (l.question op)
  have applied : l.planted.apply op = ((l.apply op).1, (l.applied op).planted) := by
    rw [apply_planted_of_result same, acted, ← store]
    rfl
  have distinct : salts.Distinct config.saltBytes (l.applied op).store.draws := by
    have drawn := undisturbed.2
    rwa [Lockstep.applied, applied] at drawn
  obtain ⟨⟨outcome, agree⟩, steady'⟩ := steady.applied bound admissible distinct undisturbed.1
  exact ⟨outcome, agree, by rw [applied, agree], steady'⟩

omit renders in
/-- A step that overfills the store is a registration, after which two users share a hash. -/
theorem SteadyUnder.apply_overfilled {salts : SaltSource} {l : Lockstep}
    (steady : SteadyUnder config salts l) {op : Operation}
    (overfills : l.store.Overfills (l.question op).action) :
    ∃ outcomes after, l.planted.apply op = (.ok outcomes, after) ∧
      (∃ user password, op = .register user password) ∧
      Rule.hashesUnique.id ∈ after.brokenRules := by
  match op, overfills with
  | .register user password, overfills =>
      have bound : l.store.config.hashIterations ≤ Hash.Pbkdf2.maxIterations := by
        rw [steady.aligned.config_eq]
        exact bound
      obtain ⟨result, result', acted⟩ :=
        Store.act_planted_of_overfills steady.sound.defects bound overfills
      have posed : l.planted.apply (.register user password) =
          ((l.pose (.register user password)).1,
            ⟨_, (l.pose (.register user password)).2.oracle⟩) :=
        apply_planted_of_result (result'.trans result.symm)
      have answered := l.oracle.ask_answers steady.aligned.template
        (show Admissible config (.register user password) from trivial)
      obtain ⟨outcomes, same⟩ := @pose_of_hasOutcome l (.register user password)
        ⟨_, congrArg Outcome.ofResult result⟩ answered.1
      rw [same] at posed
      refine ⟨outcomes, _, posed, ⟨user, password, rfl⟩, mem_brokenRules ?_⟩
      have memory : (l.planted.store.acted (.call (.register user ⟨password⟩))).backend.memory =
          Defects.overfilled l.store.backend.memory user
            (l.store.config.hashOf l.store.salts (l.store.draws + 1) ⟨password⟩) :=
        congrArg (fun s => s.backend.memory) acted
      obtain ⟨enters, many⟩ := overfills
      have unshared : ¬Rule.hashesUnique.Holds (Defects.overfilled l.store.backend.memory user
          (l.store.config.hashOf l.store.salts (l.store.draws + 1) ⟨password⟩)) :=
        Defects.not_hashesUnique_overfilled (Directory.get?_eq_none_iff.mp enters.absent)
          (Nat.lt_of_lt_of_le (by decide) many) _
      rw [← memory] at unshared
      exact unshared

/-- Up to the operation that enters a fifth user, nothing diverges; that operation does. -/
theorem divergenceFrom_planted {salts : SaltSource} {l : Lockstep}
    (steady : SteadyUnder config salts l) (few : l.known.size ≤ 4) {ops : List Operation}
    (armable : Within Armable ops)
    (undisturbed : ∀ stage ∈ l.planted.replayed ops, UndisturbedBy config salts stage.1 stage.2)
    (index : Nat) :
    (l.planted.divergenceFrom index ops = .ok none ∧ (l.admitted ops).size ≤ 4) ∨
      ∃ d before after, l.planted.divergenceFrom index ops = .ok (some d) ∧
        ops = before ++ d.operation :: after ∧ d.index = index + before.length ∧
        AtFifth l.admitted before d := by
  induction ops generalizing l index with
  | nil => exact .inl ⟨rfl, by rwa [admitted_nil]⟩
  | cons op rest ih =>
      obtain ⟨first, later⟩ := within_cons.mp armable
      have most := l.size_admitted_singleton_le op
      by_cases overfills : l.store.Overfills (l.question op).action
      · obtain ⟨many, more⟩ := steady.aligned.overfills_iff.mp overfills
        obtain ⟨outcomes, after, applied, registers, broken⟩ :=
          steady.apply_overfilled bound overfills
        have differ : ¬(outcomes.Agree ∧ after.brokenRules = []) := by
          rintro ⟨-, unbroken⟩
          rw [unbroken] at broken
          cases broken
        refine .inr ⟨_, [], rest, divergenceFrom_cons_of_differ index rest applied differ, rfl, rfl,
          registers, ?_, ?_, broken⟩
        · rw [admitted_nil]
          omega
        · show (l.admitted [op]).size = 5
          omega
      · obtain ⟨outcome, agree, applied, steady'⟩ := steady.apply_planted bound renders first
          (undisturbed (l.planted, op) List.mem_cons_self) overfills
        have agree' : (⟨outcome, outcome⟩ : Outcomes).Agree ∧
            (l.applied op).planted.brokenRules = [] :=
          ⟨rfl, brokenRules_eq_nil steady'.sound.memory.holds⟩
        have admitted : ∀ rest, l.admitted (op :: rest) = (l.applied op).admitted rest :=
          admitted_cons first (oracle_of_apply_eq_ok agree)
        have few' : (l.applied op).known.size ≤ 4 := by
          have room := mt steady.aligned.overfills_iff.mpr overfills
          rw [← admitted_nil, ← admitted]
          omega
        rw [divergenceFrom_cons_of_agree index rest applied agree']
        rcases ih steady' few' later (fun stage reached => undisturbed stage (by
            rw [replayed_cons_of_agree rest applied agree']
            exact List.mem_cons_of_mem _ reached)) (index + 1) with
          ⟨none, less⟩ | ⟨d, before, after, found, rfl, position, fifth⟩
        · exact .inl ⟨none, by rwa [admitted]⟩
        · refine .inr ⟨d, op :: before, after, found, rfl, ?_, fifth.registers, ?_, ?_,
            fifth.broken⟩
          · rw [position, List.length_cons]
            omega
          · rw [admitted]
            exact fifth.four
          · rw [List.cons_append, admitted]
            exact fifth.five

end Replays

end Lockstep

end Gatekeeper
