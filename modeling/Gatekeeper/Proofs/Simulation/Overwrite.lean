import Gatekeeper.Proofs.Simulation.Planted
import Gatekeeper.Proofs.Simulation.Trial

/-!
# The overwriting store is caught and shrunk to five registrations

A list of operations diverges on the store that overwrites its first user exactly if it
enters five users.  Whatever list diverges is shrunk to five registrations of different
users, since a list that enters five users needs no more than these.
-/

namespace Gatekeeper

open Operation
open Gatekeeper.Shrink

/-! ## The store -/

def overwritingStore (config : Config) (salts : SaltSource) : Store :=
  { config, salts, backend := { Backend.guarded with defects := .overwriting } }

/-- No operation that a replay goes through is disturbed by a salt that is drawn again or by
passwords that hashing does not tell apart. -/
def Undisturbed (fresh : Store) (ops : List Operation) : Prop :=
  ∀ stage ∈ (Lockstep.start fresh).replayed ops,
    Lockstep.UndisturbedBy fresh.config fresh.salts stage.1 stage.2

section Overwriting

variable {config : Config} {salts : SaltSource} {ops : List Operation}

theorem readyPlanted_start :
    Lockstep.ReadyPlanted config (.start (overwritingStore config salts)) :=
  ⟨.start { config, salts, backend := .guarded }, ⟨rfl, rfl, Nat.one_pos, nofun, rfl⟩, rfl⟩

variable (bound : config.hashIterations ≤ Hash.Pbkdf2.maxIterations)
  (renders : ∀ user, ∃ message, Template.render config.secretTemplate user = .ok message)
  (armable : Within Armable ops)

include bound renders armable

theorem exists_replay_overwriting :
    ∃ verdict, replay (overwritingStore config salts) ops = .ok verdict :=
  Lockstep.exists_divergenceFrom (Lockstep.ReadyPlanted config) Armable
    (fun _ _ ready armable => ready.apply bound renders armable) readyPlanted_start armable 0

/-- Lists that enter five users diverge, where the fifth is entered, and no others do. -/
theorem replay_overwriting (undisturbed : Undisturbed (overwritingStore config salts) ops) :
    (replay (overwritingStore config salts) ops = .ok none ∧ (entrants ops).size ≤ 4) ∨
      ∃ d before after, replay (overwritingStore config salts) ops = .ok (some d) ∧
        ops = before ++ d.operation :: after ∧ d.index = before.length ∧
        Lockstep.AtFifth entrants before d := by
  have steady := Lockstep.steady_start config salts
  have admitted := Lockstep.admitted_start { config, salts, backend := .guarded }
  rcases Lockstep.divergenceFrom_planted bound renders steady (Nat.zero_le 4) armable undisturbed 0
    with ⟨none, few⟩ | ⟨d, before, after, found, split, position, fifth⟩
  · rw [admitted] at few
    exact .inl ⟨none, few⟩
  · rw [Nat.zero_add] at position
    rw [show (Lockstep.start { config, salts, backend := .guarded }).admitted = entrants from
      funext admitted] at fifth
    exact .inr ⟨d, before, after, found, split, position, fifth⟩

/-- Lists diverge exactly if they enter five users. -/
theorem diverging_overwriting (undisturbed : Undisturbed (overwritingStore config salts) ops) :
    diverging (overwritingStore config salts) ops = crowded ops := by
  rcases replay_overwriting bound renders armable undisturbed with
    ⟨none, few⟩ | ⟨d, before, after, found, split, -, fifth⟩
  · rw [diverging, none, crowded, decide_eq_false (by omega)]
  · have five := fifth.five
    have most := size_entrants_le_append (before ++ [d.operation]) after
    rw [List.append_assoc, List.singleton_append, ← split] at most
    rw [diverging_iff.mpr ⟨d, found⟩, crowded, decide_eq_true (by omega)]

/-- Lists that enter five users are shrunk to five registrations. -/
theorem shrink_overwriting (many : crowded ops = true)
    (undisturbed : ∀ candidate, Reduces ops candidate →
      Undisturbed (overwritingStore config salts) candidate) (limit : Int) :
    ∃ (shrunk : Shrunk) (users : List String),
      shrink (diverges (overwritingStore config salts)) limit ops = .ok (some shrunk) ∧
      shrunk.operations = users.map (fun user => .register user simplestPassword) ∧
      users.length = 5 ∧ users.Nodup ∧ simplestUser ∈ users := by
  have same : ∀ candidate, Reduces ops candidate →
      diverging (overwritingStore config salts) candidate = crowded candidate :=
    fun candidate reduces => diverging_overwriting bound renders
      (reduces.within closedUnderSimpler_armable armable) (undisturbed candidate reduces)
  have answers : Answers Armable (diverges (overwritingStore config salts))
      (diverging (overwritingStore config salts)) :=
    answers_of_exists fun _ => exists_replay_overwriting bound renders
  obtain ⟨shrunk, done, reduces, failing, deletion, simplification, -⟩ :=
    answers.exists_shrunk limit closedUnderSimpler_armable armable
      ((same ops .refl).trans many)
  rw [same _ reduces] at failing
  have deletion : ResistsDeletion crowded shrunk.operations := by
    intro before op after split
    rw [← same _ (reduces.deletion ?_)]
    · exact deletion before op after split
    · rw [split]
      exact List.Sublist.append_left (List.sublist_cons_self op after) before
  have simplification : ResistsSimplification crowded shrunk.operations := by
    intro before op after split variant simpler
    rw [split] at reduces
    rw [← same _ (reduces.simplification simpler)]
    exact simplification before op after split variant simpler
  obtain ⟨users, registrations⟩ := five_registrations failing deletion simplification
  exact ⟨shrunk, users, done, registrations⟩

end Overwriting

/-- A list diverges exactly if it enters five users before a fail point on the way of registrations
is armed, and then at the registration that enters the fifth, with two users who share a hash.  It
is shrunk, with whatever limit, to five registrations of different users. -/
theorem overwriting_caught_and_shrunk (config : Config) (salts : SaltSource) (ops : List Operation)
    (bound : config.hashIterations ≤ Hash.Pbkdf2.maxIterations)
    (renders : ∀ user, ∃ message, Template.render config.secretTemplate user = .ok message)
    (armable : Within Armable ops)
    (undisturbed : Undisturbed (overwritingStore config salts) ops) :
    ∃ verdict, replay (overwritingStore config salts) ops = .ok verdict ∧
      (verdict.isSome = true ↔ 5 ≤ (entrants ops).size) ∧
      ∀ d, verdict = some d →
        (∃ before after, ops = before ++ d.operation :: after ∧ d.index = before.length ∧
          Lockstep.AtFifth entrants before d) ∧
        ((∀ candidate, Reduces ops candidate →
            Undisturbed (overwritingStore config salts) candidate) →
          ∀ limit : Int, ∃ (shrunk : Shrunk) (users : List String),
            shrink (diverges (overwritingStore config salts)) limit ops = .ok (some shrunk) ∧
            shrunk.operations = users.map (fun user => .register user simplestPassword) ∧
            users.length = 5 ∧ users.Nodup ∧ simplestUser ∈ users) := by
  have agrees := diverging_overwriting bound renders armable undisturbed
  rcases replay_overwriting bound renders armable undisturbed with
    ⟨none, few⟩ | ⟨d, before, after, found, split, position, fifth⟩
  · refine ⟨_, none, ⟨nofun, fun many => ?_⟩, nofun⟩
    exact absurd many (by omega)
  · have many : crowded ops = true := agrees ▸ diverging_iff.mpr ⟨d, found⟩
    refine ⟨_, found, ⟨fun _ => of_decide_eq_true many, fun _ => rfl⟩, ?_⟩
    rintro _ ⟨⟩
    exact ⟨⟨before, after, split, position, fifth⟩,
      shrink_overwriting bound renders armable many⟩

/-! ## Lists that nothing disturbs -/

def Operation.Truthful : Operation → Prop
  | .loginRight user => UserId.WellFormed user
  | .loginWrong _ => False
  | _ => True

theorem Operation.closedUnderSimpler_truthful : ClosedUnderSimpler Truthful := by
  intro op truthful variant simpler
  rcases mem_simpler simpler with rfl | ⟨user, password, rfl, rfl⟩ | ⟨point, rfl, rfl⟩
  · cases op with
    | loginRight user => exact (by decide : UserId.WellFormed simplestUser)
    | loginWrong user => exact truthful
    | _ => trivial
  · trivial
  · trivial

namespace Lockstep

theorem discerns_of_truthful (l : Lockstep) {op : Operation} (truthful : op.Truthful) :
    l.Discerns (l.question op) := by
  cases op with
  | loginRight user =>
      have parsed : Credentials.parse (loginLine user (l.passwordFor user)) =
          .ok ⟨user, ⟨l.passwordFor user⟩⟩ := by
        rw [Credentials.parse_of_plain
          (Credentials.plain_of_separator_mem (separator_mem_loginLine user _))]
        have line : (loginLine user (l.passwordFor user)).toList =
            user.toList ++ separator :: (l.passwordFor user).toList := by
          simp [loginLine]
        rw [line, Credentials.ofPlainLine_append truthful, String.ofList_toList]
      show Discerns l (.login (loginLine user (l.passwordFor user)))
      simp only [Discerns, parsed]
      split
      · trivial
      · split
        · next kept hash known found =>
          have same : l.passwordFor user = kept := by
            rw [passwordFor, known]
            rfl
          rw [same]
          split
          · trivial
          · exact fun other => absurd rfl other
        · trivial
  | loginWrong user => exact absurd truthful id
  | _ => trivial

section Replays

variable {config : Config} (bound : config.hashIterations ≤ Hash.Pbkdf2.maxIterations)
  (renders : ∀ user, ∃ message, Template.render config.secretTemplate user = .ok message)

include bound in
theorem ReadyPlanted.draws_applied_le {l : Lockstep} (ready : ReadyPlanted config l)
    (op : Operation) : (l.applied op).store.draws ≤ l.store.draws + 1 := by
  obtain ⟨m, ready, rfl⟩ := ready
  obtain ⟨-, memory, -, acted⟩ := Store.exists_planted ready.defects
    (ready.config_eq ▸ bound) ready.verifiable (m.question op).action
  have store : (m.planted.applied op).store = m.store.planted.acted (m.question op).action :=
    store_pose m.planted (m.question op)
  rw [store, acted]
  exact (Store.draws_act_bounds ready.defects (m.question op).action).2

include bound renders in
theorem ReadyPlanted.undisturbed {l : Lockstep} (ready : ReadyPlanted config l)
    {ops : List Operation} (armable : Within Armable ops) (truthful : Within Truthful ops)
    (few : l.store.draws + ops.length < Nat.pow 256 config.saltBytes) :
    ∀ stage ∈ l.replayed ops, UndisturbedBy config .counter stage.1 stage.2 := by
  induction ops generalizing l with
  | nil => nofun
  | cons op rest ih =>
      obtain ⟨armable, armable'⟩ := within_cons.mp armable
      obtain ⟨truthful, truthful'⟩ := within_cons.mp truthful
      have drawn := ready.draws_applied_le bound op
      rw [List.length_cons] at few
      obtain ⟨outcomes, after, applied, ready'⟩ := ready.apply bound renders armable
      have same : after = l.applied op := by rw [Lockstep.applied, applied]
      intro stage reached
      rw [replayed, applied] at reached
      dsimp only at reached
      rcases List.mem_cons.mp reached with rfl | later
      · exact ⟨l.discerns_of_truthful truthful, SaltSource.counter_distinct
          (show (l.applied op).store.draws < Nat.pow 256 config.saltBytes by omega)⟩
      · split at later
        · refine ih ready' armable' truthful' ?_ stage later
          rw [same]
          omega
        · cases later

end Replays

end Lockstep

/-- The counter disturbs no replay of fewer operations than there are salts, unless a wrong
password is tried. -/
theorem undisturbed_of_truthful {config : Config}
    (bound : config.hashIterations ≤ Hash.Pbkdf2.maxIterations)
    (renders : ∀ user, ∃ message, Template.render config.secretTemplate user = .ok message)
    {ops : List Operation} (armable : Within Armable ops) (truthful : Within Truthful ops)
    (few : ops.length < Nat.pow 256 config.saltBytes) {candidate : List Operation}
    (reduces : Reduces ops candidate) :
    Undisturbed (overwritingStore config .counter) candidate := by
  have shorter := reduces.length_le
  refine readyPlanted_start.undisturbed bound renders
    (reduces.within closedUnderSimpler_armable armable)
    (reduces.within closedUnderSimpler_truthful truthful) ?_
  show 0 + candidate.length < _
  omega

/-- Users enter twice, or with identifiers that are not well formed, and log in and out between;
the last registration comes too late. -/
def crowd : List Operation := [.register "Bob" "hunter2", .loginRight "Bob", .register "Bob" "a",
  .register "a:b" "a", .fail FailPoint.hasSession.name, .register "Carol" "hunter2",
  .accessSecret "Bob", .register "Xavier" "", .logout "Carol", .register "" "a",
  .register "Yvonne" "hunter2", .register "Zachary" "hunter2", .fail FailPoint.register.name,
  .register "David" "a"]

theorem overwriting_caught_and_shrunk_crowd :
    (∀ candidate, Reduces crowd candidate →
      Undisturbed (overwritingStore .simulation .counter) candidate) ∧
    (∃ d, replay (overwritingStore .simulation .counter) crowd = .ok (some d) ∧
      Rule.hashesUnique.id ∈ d.brokenRules) ∧
    ∃ (shrunk : Shrunk) (users : List String),
      shrink (diverges (overwritingStore .simulation .counter)) 12 crowd = .ok (some shrunk) ∧
      shrunk.operations = users.map (fun user => .register user simplestPassword) ∧
      users.length = 5 := by
  have bound : Config.simulation.hashIterations ≤ Hash.Pbkdf2.maxIterations := by decide
  have renders : ∀ user, ∃ message,
      Template.render Config.simulation.secretTemplate user = .ok message :=
    fun user => ⟨_, Template.render_standard user⟩
  have armable : Within Armable crowd := by
    simp [crowd, Within, Armable]
  have truthful : Within Truthful crowd := by
    simpa [crowd, Within, Truthful] using (by decide : UserId.WellFormed "Bob")
  have undisturbed : ∀ candidate, Reduces crowd candidate →
      Undisturbed (overwritingStore .simulation .counter) candidate :=
    fun candidate => undisturbed_of_truthful bound renders armable truthful (by decide)
  obtain ⟨verdict, replayed, caught, diverges⟩ := overwriting_caught_and_shrunk .simulation .counter
    crowd bound renders armable (undisturbed crowd .refl)
  obtain ⟨d, rfl⟩ := Option.isSome_iff_exists.mp (caught.mpr (by decide))
  obtain ⟨⟨before, after, -, -, fifth⟩, small⟩ := diverges d rfl
  obtain ⟨shrunk, users, done, registrations, five, -⟩ := small undisturbed 12
  exact ⟨undisturbed, ⟨d, replayed, fifth.broken⟩, shrunk, users, done, registrations, five⟩

end Gatekeeper
