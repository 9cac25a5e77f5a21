import Gatekeeper.Proofs.Simulation.Total
import Gatekeeper.Simulation.Trial

/-!
# What trials report

Trials stop at the first list that diverges.  What is reported of it is locally minimal
and diverges at its last operation: if there were operations after the divergence, the
last of them could be deleted.
-/

namespace Gatekeeper

open Gatekeeper.Shrink

/-! ## Lists that diverge -/

def Answering (fresh : Store) : Prop :=
  ∀ ops, Within Operation.Drawable ops → ∃ verdict, replay fresh ops = .ok verdict

def diverging (fresh : Store) (ops : List Operation) : Bool :=
  match replay fresh ops with
  | .ok (some _) => true
  | _ => false

theorem diverging_iff {fresh : Store} {ops : List Operation} :
    diverging fresh ops = true ↔ ∃ d, replay fresh ops = .ok (some d) := by
  rw [diverging]
  split
  · next d found => exact ⟨fun _ => ⟨d, found⟩, fun _ => rfl⟩
  · next other =>
    refine ⟨nofun, ?_⟩
    rintro ⟨d, found⟩
    exact absurd found (other d)

theorem answers_of_exists {fresh : Store} {Allowed : Operation → Prop}
    (answering : ∀ ops, Within Allowed ops → ∃ verdict, replay fresh ops = .ok verdict) :
    Answers Allowed (diverges fresh) (diverging fresh) := by
  intro ops within
  obtain ⟨verdict, replayed⟩ := answering ops within
  rw [diverges, diverging, replayed]
  cases verdict with
  | none => rfl
  | some d => rfl

theorem Answering.answers {fresh : Store} (answering : Answering fresh) :
    Answers Operation.Drawable (diverges fresh) (diverging fresh) := answers_of_exists answering

/-- A list that resists deletion diverges at its last operation. -/
theorem length_of_resistsDeletion {fresh : Store} {ops : List Operation} {d : Divergence}
    (resists : ResistsDeletion (diverging fresh) ops) (found : replay fresh ops = .ok (some d)) :
    d.index + 1 = ops.length := by
  obtain ⟨before, after, rfl, position, -, stays⟩ := split_of_replay found
  rcases List.eq_nil_or_concat after with rfl | ⟨after, last, rfl⟩
  · rw [position, List.length_append, List.length_singleton]
  · -- Without the last operation the divergence stays.
    have shorter := resists (before ++ d.operation :: after) last [] (by simp)
    rw [List.append_nil] at shorter
    rw [diverging_iff.mpr ⟨d, stays after⟩] at shorter
    cases shorter

/-! ## Counterexamples -/

/-- A counterexample that cannot be made smaller and diverges at its end. -/
structure Counterexample.Least (fresh : Store) (c : Counterexample) : Prop where
  locallyMinimal : isLocallyMinimal (diverges fresh) c.shrunk = .ok true
  replayed : replay fresh c.shrunk = .ok (some c.divergence)
  last : c.divergence.index + 1 = c.shrunk.length

namespace Trials

variable {σ : Type} {t : Trials σ}

theorem reduce_of_diverges (answering : Answering t.fresh) {ops : List Operation}
    (within : Within Operation.Drawable ops) {d : Divergence}
    (found : replay t.fresh ops = .ok (some d)) :
    ∃ c records, t.reduce ops d = .ok (c, records) ∧ c.drawn = ops ∧ c.Least t.fresh := by
  have cut : Within Operation.Drawable (ops.take (d.index + 1)) :=
    within.of_sublist (List.take_sublist _ _)
  have failing : diverging t.fresh (ops.take (d.index + 1)) = true :=
    diverging_iff.mpr ⟨d, replay_take found⟩
  obtain ⟨shrunk, done, -, failing', resists, -, minimal⟩ :=
    answering.answers.exists_shrunk t.limit Operation.closedUnderSimpler_drawable cut failing
  obtain ⟨last, replayed⟩ := diverging_iff.mp failing'
  refine ⟨⟨ops, shrunk.operations, last⟩, shrunk.records, ?_, rfl, minimal, replayed,
    length_of_resistsDeletion resists replayed⟩
  rw [reduce, done]
  simp only [pure, Except.pure, bind, Except.bind, replayed]

/-! ## Drawn lists -/

/-- The lists that so many trials draw, as long as drawing does not fail. -/
def drawn (t : Trials σ) : (count : Nat) → σ → List (List Operation)
  | 0, _ => []
  | count + 1, state =>
      match (Operation.randomList t.source t.longest).run state with
      | (.ok ops, state) => ops :: drawn t count state
      | (.error _, _) => []

theorem drawn_succ (nonneg : 0 ≤ t.longest) (count : Nat) (state : σ) :
    ∃ ops state', (Operation.randomList t.source t.longest).run state = (.ok ops, state') ∧
      t.drawn (count + 1) state = ops :: t.drawn count state' ∧
      Within Operation.Drawable ops := by
  obtain ⟨ops, result, -, within⟩ := Operation.yields_randomList t.source nonneg state
  refine ⟨ops, ((Operation.randomList t.source t.longest).run state).2, ?_, ?_, within⟩
  · exact Prod.ext result rfl
  · rw [drawn]
    generalize (Operation.randomList t.source t.longest).run state = ended at result ⊢
    obtain ⟨_, state'⟩ := ended
    cases result
    rfl

theorem within_drawn (nonneg : 0 ≤ t.longest) (count : Nat) (state : σ) :
    (t.drawn count state).length = count ∧
      ∀ ops ∈ t.drawn count state, Within Operation.Drawable ops := by
  induction count generalizing state with
  | zero => exact ⟨rfl, nofun⟩
  | succ count ih =>
      obtain ⟨ops, state', -, more, within⟩ := drawn_succ nonneg count state
      rw [more]
      refine ⟨?_, List.forall_mem_cons.mpr ⟨within, (ih state').2⟩⟩
      rw [List.length_cons, (ih state').1]

/-! ## Runs of trials -/

section Steps

variable {state state' : σ} {ops : List Operation} (r : TrialReport) (count : Nat)

theorem runFrom_succ_of_agree
    (drawn : (Operation.randomList t.source t.longest).run state = (.ok ops, state'))
    (agree : replay t.fresh ops = .ok none) :
    t.runFrom r (count + 1) state =
      t.runFrom { r with runs := r.runs + 1, operationsRun := r.operationsRun + ops.length } count
        state' := by
  rw [runFrom, drawn]
  simp only [bind, Except.bind, agree]

theorem runFrom_succ_of_diverges {d : Divergence} {c : Counterexample} {records : List Log.Record}
    (drawn : (Operation.randomList t.source t.longest).run state = (.ok ops, state'))
    (found : replay t.fresh ops = .ok (some d)) (reduced : t.reduce ops d = .ok (c, records)) :
    t.runFrom r (count + 1) state =
      .ok { r with
        runs := r.runs + 1
        operationsRun := r.operationsRun + (d.index + 1)
        counterexample := some c
        records := announcement (d.index + 1) :: records } := by
  rw [runFrom, drawn]
  simp only [bind, Except.bind, found, reduced]
  rfl

end Steps

theorem runFrom_of_agree (nonneg : 0 ≤ t.longest) (r : TrialReport) {count : Nat} {state : σ}
    (agree : ∀ ops ∈ t.drawn count state, replay t.fresh ops = .ok none) :
    t.runFrom r count state =
      .ok { r with
        runs := r.runs + count
        operationsRun := r.operationsRun + (t.drawn count state).flatten.length } := by
  induction count generalizing r state with
  | zero => rfl
  | succ count ih =>
      obtain ⟨ops, state', drawn, more, -⟩ := drawn_succ nonneg count state
      rw [more, List.forall_mem_cons] at agree
      rw [runFrom_succ_of_agree r count drawn agree.1, ih _ agree.2, more, List.flatten_cons,
        List.length_append, Nat.add_assoc, Nat.add_assoc, Nat.add_comm 1]

theorem runFrom_of_diverges (nonneg : 0 ≤ t.longest) (answering : Answering t.fresh)
    (r : TrialReport) {count : Nat} {state : σ} {before after : List (List Operation)}
    {ops : List Operation} {d : Divergence}
    (split : t.drawn count state = before ++ ops :: after)
    (agree : ∀ earlier ∈ before, replay t.fresh earlier = .ok none)
    (found : replay t.fresh ops = .ok (some d)) :
    ∃ c records, c.drawn = ops ∧ c.Least t.fresh ∧
      t.runFrom r count state =
        .ok { r with
          runs := r.runs + (before.length + 1)
          operationsRun := r.operationsRun + (before.flatten.length + (d.index + 1))
          counterexample := some c
          records } := by
  induction before generalizing r count state with
  | nil =>
      cases count with
      | zero => cases split
      | succ count =>
          obtain ⟨first, state', drawn, more, within⟩ := drawn_succ nonneg count state
          rw [more] at split
          cases split
          obtain ⟨c, records, reduced, same, least⟩ := reduce_of_diverges answering within found
          have ran := runFrom_succ_of_diverges r count drawn found reduced
          exact ⟨c, _, same, least, by simpa using ran⟩
  | cons earlier before ih =>
      cases count with
      | zero => cases split
      | succ count =>
          obtain ⟨first, state', drawn, more, -⟩ := drawn_succ nonneg count state
          rw [more, List.cons_append] at split
          obtain ⟨rfl, later⟩ := List.cons.inj split
          obtain ⟨agree, agree'⟩ := List.forall_mem_cons.mp agree
          obtain ⟨c, records, same, least, ran⟩ := ih
            { r with runs := r.runs + 1, operationsRun := r.operationsRun + first.length }
            later agree'
          refine ⟨c, records, same, least, ?_⟩
          rw [runFrom_succ_of_agree r count drawn agree, ran]
          simp
          omega

/-- Either no list diverges, or there is a first that does. -/
theorem agree_or_diverges {fresh : Store} (answering : Answering fresh)
    {lists : List (List Operation)} (within : ∀ ops ∈ lists, Within Operation.Drawable ops) :
    (∀ ops ∈ lists, replay fresh ops = .ok none) ∨
      ∃ before ops after d, lists = before ++ ops :: after ∧
        (∀ earlier ∈ before, replay fresh earlier = .ok none) ∧
        replay fresh ops = .ok (some d) := by
  induction lists with
  | nil => exact .inl nofun
  | cons first rest ih =>
      obtain ⟨drawable, within⟩ := List.forall_mem_cons.mp within
      obtain ⟨verdict, replayed⟩ := answering first drawable
      cases verdict with
      | some d => exact .inr ⟨[], first, rest, d, rfl, nofun, replayed⟩
      | none =>
          rcases ih within with agree | ⟨before, ops, after, d, rfl, agree, found⟩
          · exact .inl (List.forall_mem_cons.mpr ⟨replayed, agree⟩)
          · exact .inr ⟨first :: before, ops, after, d, rfl,
              List.forall_mem_cons.mpr ⟨replayed, agree⟩, found⟩

/-- Trials never fail.  They pass after all lists if none of them diverges; otherwise they report
the first that does, with a least counterexample that it was shrunk to. -/
theorem run_reports (t : Trials σ) (seed : Option Int) (count : Int) (state : σ)
    (nonneg : 0 ≤ t.longest) (answering : Answering t.fresh) :
    let lists := t.drawn count.toNat state
    ∃ r, t.run seed count state = .ok r ∧ lists.length = count.toNat ∧
      ((∀ ops ∈ lists, replay t.fresh ops = .ok none) ∧ r.passed = true ∧
          r.runs = count.toNat ∧ r.operationsRun = lists.flatten.length ∨
        ∃ before ops after d c, lists = before ++ ops :: after ∧
          (∀ earlier ∈ before, replay t.fresh earlier = .ok none) ∧
          replay t.fresh ops = .ok (some d) ∧ r.runs = before.length + 1 ∧
          r.operationsRun = before.flatten.length + d.index + 1 ∧
          r.counterexample = some c ∧ c.drawn = ops ∧ c.Least t.fresh) := by
  intro lists
  obtain ⟨size, within⟩ := within_drawn nonneg count.toNat state
  rcases agree_or_diverges answering within with
    agree | ⟨before, ops, after, d, split, agree, found⟩
  · refine ⟨_, runFrom_of_agree nonneg { seed } agree, size, .inl ⟨agree, rfl, ?_, ?_⟩⟩
    · exact Nat.zero_add _
    · exact Nat.zero_add _
  · obtain ⟨c, records, same, least, ran⟩ :=
      runFrom_of_diverges nonneg answering { seed } split agree found
    refine ⟨_, ran, size, .inr ⟨before, ops, after, d, c, split, agree, found, ?_, ?_, rfl, same,
      least⟩⟩
    · exact Nat.zero_add _
    · dsimp only
      omega

def occupied : Store := { simulatedStore with
  backend := { Backend.guarded with
    memory := { Memory.empty with
      users := Directory.empty.insert "Alice" (.hashed (.compose 1 [] [])) } } }

theorem answering_occupied : Answering occupied := by
  have verifiable : occupied.backend.memory.Verifiable := by
    intro value stored password
    obtain rfl : value = .hashed (.compose 1 [] []) := List.mem_singleton.mp stored
    exact ⟨_, Stored.matching_compose password (Nat.le_refl 1) (by decide) [] []⟩
  intro ops drawable
  exact exists_replay rfl (by decide) verifiable (by decide)
    (fun user _ => ⟨_, Template.render_standard user⟩) drawable

/-- The source that takes the digits of a number, from the least on, to the bounds as bases. -/
def digits : RandomSource Nat :=
  ⟨fun bound positive n => (⟨n % bound, Nat.mod_lt n positive⟩, n / bound)⟩

/-- The second of two lists diverges, at its second operation. -/
theorem run_reports_occupied :
    let t : Trials Nat := { source := digits, fresh := occupied, longest := 2 }
    0 ≤ t.longest ∧ Answering t.fresh ∧
      ∃ r c, t.run (some 0) 2 2654092559999293 = .ok r ∧ r.runs = 2 ∧ r.operationsRun = 3 ∧
        r.counterexample = some c ∧ c.drawn = [.logout "Bob", .register "Alice" "b"] ∧
        c.Least t.fresh := by
  intro t
  have drawn : t.drawn 2 2654092559999293 =
      [[.logout "Bob"], [.logout "Bob", .register "Alice" "b"]] := by
    decide +kernel
  have agrees : diverging occupied [.logout "Bob"] = false := by decide +kernel
  have diverges : (replay occupied [.logout "Bob", .register "Alice" "b"]).toOption.join.map
      Divergence.index = some 1 := by
    decide +kernel
  obtain ⟨r, ran, -, ⟨agree, -⟩ | ⟨before, ops, after, d, c, split, -, found, runs, operations,
    counterexample, same, least⟩⟩ :=
    run_reports t (some 0) 2 2654092559999293 (by decide) answering_occupied
  · have second := agree [.logout "Bob", .register "Alice" "b"] (by
      rw [show (2 : Int).toNat = 2 from rfl, drawn]
      simp)
    rw [second] at diverges
    cases diverges
  · rw [show (2 : Int).toNat = 2 from rfl, drawn] at split
    match before, split with
    | [], split =>
        cases split
        rw [diverging_iff.mpr ⟨d, found⟩] at agrees
        cases agrees
    | [first], split =>
        cases split
        rw [found] at diverges
        have position : d.index = 1 := Option.some.inj diverges
        refine ⟨by decide, answering_occupied, r, c, ran, runs, ?_, counterexample, same, least⟩
        rw [operations, position]
        rfl
    | _ :: _ :: before, split => simp at split

end Trials

end Gatekeeper
