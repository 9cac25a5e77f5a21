import Gatekeeper.Proofs.Simulation.Subject

/-!
# Where a replay diverges

A replay depends on no more than the operations up to its first divergence: those
before it do not diverge, and what comes after it does not matter.
-/

namespace Gatekeeper

open Run

namespace Lockstep

section Steps

variable {l l' : Lockstep} {op : Operation} {outcomes : Outcomes} (index : Nat)
  (rest : List Operation)

theorem divergenceFrom_cons_of_agree (applied : l.apply op = (.ok outcomes, l'))
    (agree : outcomes.Agree ∧ l'.brokenRules = []) :
    l.divergenceFrom index (op :: rest) = l'.divergenceFrom (index + 1) rest := by
  rw [divergenceFrom, applied]
  exact if_pos agree

theorem divergenceFrom_cons_of_differ (applied : l.apply op = (.ok outcomes, l'))
    (differ : ¬(outcomes.Agree ∧ l'.brokenRules = [])) :
    l.divergenceFrom index (op :: rest) =
      .ok (some ⟨index, op, outcomes, l'.brokenRules⟩) := by
  rw [divergenceFrom, applied]
  exact if_neg differ

end Steps

def subject : Subject Lockstep := ⟨apply, brokenRules⟩

theorem divergenceFrom_subject (index : Nat) (l : Lockstep) (ops : List Operation) :
    l.divergenceFrom index ops = subject.divergenceFrom index l ops := by
  induction ops generalizing index l with
  | nil => rfl
  | cons op rest ih =>
      rcases applied : l.apply op with ⟨failure | outcomes, l'⟩
      · simp [divergenceFrom, Subject.divergenceFrom, subject, applied]
      · simp [divergenceFrom, Subject.divergenceFrom, Subject.next, subject, applied, ih]

end Lockstep

theorem replay_eq (fresh : Store) (ops : List Operation) :
    replay fresh ops = Lockstep.subject.replay (.start fresh) ops :=
  Lockstep.divergenceFrom_subject 0 (.start fresh) ops

theorem split_of_replay {fresh : Store} {ops : List Operation} {d : Divergence}
    (found : replay fresh ops = .ok (some d)) :
    ∃ before after, ops = before ++ d.operation :: after ∧ d.index = before.length ∧
      replay fresh before = .ok none ∧
      ∀ rest, replay fresh (before ++ d.operation :: rest) = .ok (some d) := by
  simp only [replay_eq] at found ⊢
  obtain ⟨before, after, split, position, clean, -, stays⟩ := Lockstep.subject.split_of_replay found
  exact ⟨before, after, split, position, clean, stays⟩

/-- A list that is cut off behind its divergence diverges there. -/
theorem replay_take {fresh : Store} {ops : List Operation} {d : Divergence}
    (found : replay fresh ops = .ok (some d)) :
    replay fresh (ops.take (d.index + 1)) = .ok (some d) := by
  obtain ⟨before, after, rfl, position, -, stays⟩ := split_of_replay found
  have cut : (before ++ d.operation :: after).take (d.index + 1) = before ++ [d.operation] := by
    rw [position, List.take_length_add_append, List.take_succ_cons, List.take_zero]
  rw [cut]
  exact stays []

/-- A replay has a verdict unless an operation fails, on whatever it is made.  It finds the first
divergence and nothing else: the operations before it pass, those after it do not count, and what
it tells of the operation is so.  Where it finds none, every operation passes, and nothing is
found in any list that comes first. -/
theorem replay_finds_first {σ : Type} (subject : Subject σ) (fresh : σ) (ops : List Operation) :
    (∀ store : Store, replay store ops = Lockstep.subject.replay (.start store) ops) ∧
    ((∀ stage ∈ stages subject.next fresh ops,
        ∃ outcomes, (subject.apply stage.1 stage.2).1 = .ok outcomes) →
      ∃ verdict, subject.replay fresh ops = .ok verdict) ∧
    (∀ d, subject.replay fresh ops = .ok (some d) →
      (∃ within : d.index < ops.length, d.operation = ops[d.index]) ∧
      subject.replay fresh (ops.take d.index) = .ok none ∧
      subject.Diverges ((ops.take d.index).foldl subject.next fresh) d ∧
      ∀ rest, subject.replay fresh (ops.take (d.index + 1) ++ rest) = .ok (some d)) ∧
    (subject.replay fresh ops = .ok none ↔
      ∀ stage ∈ stages subject.next fresh ops, subject.Passes stage.1 stage.2) ∧
    (subject.replay fresh ops = .ok none → ∀ earlier, earlier <+: ops →
      subject.replay fresh earlier = .ok none) := by
  refine ⟨fun store => replay_eq store ops, fun answers => subject.exists_divergenceFrom answers 0,
    fun d found => ?_, subject.divergenceFrom_eq_none_iff 0 fresh ops,
    fun clean earlier begins => subject.replay_of_prefix clean begins⟩
  obtain ⟨before, after, rfl, position, clean, diverges, stays⟩ := subject.split_of_replay found
  have cut : (before ++ d.operation :: after).take d.index = before := by
    rw [position, List.take_left]
  have cut' : (before ++ d.operation :: after).take (d.index + 1) = before ++ [d.operation] := by
    rw [position, List.take_length_add_append, List.take_succ_cons, List.take_zero]
  rw [cut, cut']
  refine ⟨⟨by simp [position], by simp [position]⟩, clean, diverges, fun rest => ?_⟩
  rw [List.append_assoc]
  exact stays rest

def visited : Store := { simulatedStore with
  backend := { Backend.guarded with
    memory := ⟨Directory.empty.insert "Alice" (.hashed (.compose 1 [] [])),
      Roster.empty.insert "Alice"⟩ } }

/-- The oracle does not know of the session, so it refuses what the store gives. -/
theorem replay_finds_first_visited :
    (∀ stage ∈ stages Lockstep.subject.next (.start visited) [.logout "Bob", .accessSecret "Alice"],
      ∃ outcomes, (Lockstep.subject.apply stage.1 stage.2).1 = .ok outcomes) ∧
    ∃ d, replay visited [.logout "Bob", .accessSecret "Alice"] = .ok (some d) ∧
      d.index = 1 ∧ d.operation = .accessSecret "Alice" ∧
      replay visited [.logout "Bob"] = .ok none ∧ replay visited [] = .ok none ∧
      ∀ rest, replay visited (.logout "Bob" :: .accessSecret "Alice" :: rest) = .ok (some d) := by
  have answers : ∀ stage ∈ stages Lockstep.subject.next (.start visited)
      [.logout "Bob", .accessSecret "Alice"],
      ∃ outcomes, (Lockstep.subject.apply stage.1 stage.2).1 = .ok outcomes := by
    intro stage reached
    rcases List.mem_cons.mp reached with rfl | later
    · exact ⟨_, rfl⟩
    · obtain rfl := List.mem_singleton.mp later
      exact ⟨_, rfl⟩
  obtain ⟨same, verdict, first, -, -⟩ := replay_finds_first Lockstep.subject (.start visited)
    [.logout "Bob", .accessSecret "Alice"]
  obtain ⟨-, -, -, -, earlier⟩ := replay_finds_first Lockstep.subject (.start visited)
    [.logout "Bob"]
  have position : (replay visited [.logout "Bob", .accessSecret "Alice"]).toOption.join.map
      Divergence.index = some 1 := by
    decide
  simp only [← same] at verdict first earlier
  obtain ⟨found, replayed⟩ := verdict answers
  rw [replayed] at position
  cases found with
  | none => cases position
  | some d =>
      have index : d.index = 1 := Option.some.inj position
      obtain ⟨⟨within, operation⟩, clean, -, stays⟩ := first d replayed
      simp only [index] at operation clean stays
      exact ⟨answers, d, replayed, index, operation, clean,
        earlier clean [] (List.nil_prefix), stays⟩

end Gatekeeper
