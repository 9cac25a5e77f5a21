import Gatekeeper.Proofs.Run
import Gatekeeper.Simulation.Replay

/-!
# Replays on anything

A replay needs little of what it is made on: that an operation has outcomes and leaves
something, and that it can be told which rules are then broken.  It ends at the first
operation that does not pass, whatever it is made on; a store and an oracle in lockstep are
one case of this.
-/

namespace Gatekeeper

open Run

/-- What operations can be carried out on, with an eye on its rules. -/
structure Subject (σ : Type) where
  apply : σ → Operation → Except Failure Outcomes × σ
  brokenRules : σ → List String

namespace Subject

variable {σ : Type} (subject : Subject σ)

def next (s : σ) (op : Operation) : σ := (subject.apply s op).2

/-- Carry out operations up to the first divergence; `index` counts those before. -/
def divergenceFrom (index : Nat) (s : σ) : List Operation → Except Failure (Option Divergence)
  | [] => .ok none
  | op :: rest =>
      match (subject.apply s op).1 with
      | .error failure => .error failure
      | .ok outcomes =>
          if outcomes.Agree ∧ subject.brokenRules (subject.next s op) = [] then
            divergenceFrom (index + 1) (subject.next s op) rest
          else .ok (some ⟨index, op, outcomes, subject.brokenRules (subject.next s op)⟩)

def replay (fresh : σ) (ops : List Operation) : Except Failure (Option Divergence) :=
  subject.divergenceFrom 0 fresh ops

def Passes (s : σ) (op : Operation) : Prop :=
  ∃ outcomes, (subject.apply s op).1 = .ok outcomes ∧ outcomes.Agree ∧
    subject.brokenRules (subject.next s op) = []

structure Diverges (s : σ) (d : Divergence) : Prop where
  outcomes : (subject.apply s d.operation).1 = .ok d.outcomes
  brokenRules : subject.brokenRules (subject.next s d.operation) = d.brokenRules
  wrong : ¬ d.outcomes.Agree ∨ d.brokenRules ≠ []

/-! ## One operation -/

section Steps

variable {subject} {s : σ} {op : Operation} (index : Nat) (rest : List Operation)

theorem divergenceFrom_cons_of_passes (passes : subject.Passes s op) :
    subject.divergenceFrom index s (op :: rest) =
      subject.divergenceFrom (index + 1) (subject.next s op) rest := by
  obtain ⟨outcomes, applied, agree, unbroken⟩ := passes
  rw [divergenceFrom, applied]
  exact if_pos ⟨agree, unbroken⟩

theorem divergenceFrom_cons_of_diverges {d : Divergence} (diverges : subject.Diverges s d) :
    subject.divergenceFrom d.index s (d.operation :: rest) = .ok (some d) := by
  rw [divergenceFrom, diverges.outcomes, diverges.brokenRules]
  exact if_neg (Decidable.not_and_iff_not_or_not.mpr diverges.wrong)

end Steps

/-- An operation fails, passes or diverges. -/
theorem divergenceFrom_cons_cases (index : Nat) (s : σ) (op : Operation) (rest : List Operation) :
    (∃ failure, (subject.apply s op).1 = .error failure ∧
      subject.divergenceFrom index s (op :: rest) = .error failure) ∨
    subject.Passes s op ∨
    ∃ d, d.index = index ∧ d.operation = op ∧ subject.Diverges s d := by
  cases applied : (subject.apply s op).1 with
  | error failure => exact .inl ⟨failure, rfl, by rw [divergenceFrom, applied]⟩
  | ok outcomes =>
      by_cases agree : outcomes.Agree ∧ subject.brokenRules (subject.next s op) = []
      · exact .inr (.inl ⟨outcomes, applied, agree⟩)
      · have wrong := Decidable.not_and_iff_not_or_not.mp agree
        exact .inr (.inr ⟨⟨index, op, outcomes, _⟩, rfl, rfl, applied, rfl, wrong⟩)

/-! ## Lists of operations -/

/-- Operations that pass only move the replay on. -/
theorem divergenceFrom_append {s : σ} {before : List Operation}
    (passes : ∀ stage ∈ stages subject.next s before, subject.Passes stage.1 stage.2)
    (index : Nat) (after : List Operation) :
    subject.divergenceFrom index s (before ++ after) =
      subject.divergenceFrom (index + before.length) (before.foldl subject.next s) after := by
  induction before generalizing s index with
  | nil => rfl
  | cons op before ih =>
      obtain ⟨first, later⟩ := List.forall_mem_cons.mp passes
      rw [List.cons_append, divergenceFrom_cons_of_passes index _ first, ih later,
        List.foldl_cons, List.length_cons, Nat.add_assoc, Nat.add_comm 1]

theorem divergenceFrom_eq_none_iff (index : Nat) (s : σ) (ops : List Operation) :
    subject.divergenceFrom index s ops = .ok none ↔
      ∀ stage ∈ stages subject.next s ops, subject.Passes stage.1 stage.2 := by
  induction ops generalizing index s with
  | nil => exact ⟨fun _ => nofun, fun _ => rfl⟩
  | cons op rest ih =>
      rw [stages, List.forall_mem_cons]
      constructor
      · intro clean
        rcases subject.divergenceFrom_cons_cases index s op rest with
          ⟨failure, -, failed⟩ | passes | ⟨d, rfl, rfl, diverges⟩
        · rw [failed] at clean
          cases clean
        · rw [divergenceFrom_cons_of_passes index rest passes] at clean
          exact ⟨passes, (ih _ _).mp clean⟩
        · rw [divergenceFrom_cons_of_diverges rest diverges] at clean
          cases clean
      · rintro ⟨passes, later⟩
        rw [divergenceFrom_cons_of_passes index rest passes]
        exact (ih _ _).mpr later

/-- What is found is the divergence of an operation, and all operations before it pass. -/
theorem split_of_divergenceFrom {index : Nat} {s : σ} {ops : List Operation} {d : Divergence}
    (found : subject.divergenceFrom index s ops = .ok (some d)) :
    ∃ before after, ops = before ++ d.operation :: after ∧ d.index = index + before.length ∧
      (∀ stage ∈ stages subject.next s before, subject.Passes stage.1 stage.2) ∧
      subject.Diverges (before.foldl subject.next s) d := by
  induction ops generalizing index s with
  | nil => cases found
  | cons op rest ih =>
      rcases subject.divergenceFrom_cons_cases index s op rest with
        ⟨failure, -, failed⟩ | passes | ⟨first, rfl, rfl, diverges⟩
      · rw [failed] at found
        cases found
      · rw [divergenceFrom_cons_of_passes index rest passes] at found
        obtain ⟨before, after, rfl, position, earlier, diverges⟩ := ih found
        refine ⟨op :: before, after, rfl, ?_, List.forall_mem_cons.mpr ⟨passes, earlier⟩, diverges⟩
        rw [position, List.length_cons]
        omega
      · rw [divergenceFrom_cons_of_diverges rest diverges] at found
        cases found
        exact ⟨[], rest, rfl, rfl, nofun, diverges⟩

/-- A replay on which no operation fails has a verdict. -/
theorem exists_divergenceFrom {s : σ} {ops : List Operation}
    (answers : ∀ stage ∈ stages subject.next s ops,
      ∃ outcomes, (subject.apply stage.1 stage.2).1 = .ok outcomes) (index : Nat) :
    ∃ verdict, subject.divergenceFrom index s ops = .ok verdict := by
  induction ops generalizing index s with
  | nil => exact ⟨none, rfl⟩
  | cons op rest ih =>
      obtain ⟨⟨outcomes, applied⟩, later⟩ := List.forall_mem_cons.mp answers
      rcases subject.divergenceFrom_cons_cases index s op rest with
        ⟨failure, failed, -⟩ | passes | ⟨d, rfl, rfl, diverges⟩
      · rw [applied] at failed
        cases failed
      · rw [divergenceFrom_cons_of_passes index rest passes]
        exact ih later (index + 1)
      · exact ⟨_, divergenceFrom_cons_of_diverges rest diverges⟩

/-! ## Replays -/

theorem split_of_replay {fresh : σ} {ops : List Operation} {d : Divergence}
    (found : subject.replay fresh ops = .ok (some d)) :
    ∃ before after, ops = before ++ d.operation :: after ∧ d.index = before.length ∧
      subject.replay fresh before = .ok none ∧
      subject.Diverges (before.foldl subject.next fresh) d ∧
      ∀ rest, subject.replay fresh (before ++ d.operation :: rest) = .ok (some d) := by
  obtain ⟨before, after, split, position, passes, diverges⟩ :=
    subject.split_of_divergenceFrom found
  refine ⟨before, after, split, by omega, ?_, diverges, fun rest => ?_⟩
  · exact (subject.divergenceFrom_eq_none_iff 0 fresh before).mpr passes
  · rw [replay, subject.divergenceFrom_append passes, ← position]
    exact divergenceFrom_cons_of_diverges rest diverges

/-- What passes as a whole passes up to any operation. -/
theorem replay_of_prefix {fresh : σ} {earlier ops : List Operation}
    (clean : subject.replay fresh ops = .ok none) (begins : earlier <+: ops) :
    subject.replay fresh earlier = .ok none := by
  obtain ⟨later, rfl⟩ := begins
  refine (subject.divergenceFrom_eq_none_iff 0 fresh earlier).mpr fun stage reached => ?_
  refine (subject.divergenceFrom_eq_none_iff 0 fresh _).mp clean stage ?_
  rw [stages_append]
  exact List.mem_append_left _ reached

end Subject

end Gatekeeper
