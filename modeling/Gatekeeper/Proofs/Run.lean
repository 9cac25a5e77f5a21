/-!
# Runs

A run goes through a list of inputs.  Its stages are the steps with the state that
each of them finds, so that something can be said of every step of a run and not
only of its end.
-/

namespace Gatekeeper

namespace Run

variable {σ α : Type} {next : σ → α → σ}

/-- The inputs of a run, each with the state that it finds. -/
def stages (next : σ → α → σ) : σ → List α → List (σ × α)
  | _, [] => []
  | s, a :: rest => (s, a) :: stages next (next s a) rest

theorem mem_of_mem_stages {s : σ} {inputs : List α} {stage : σ × α}
    (reached : stage ∈ stages next s inputs) : stage.2 ∈ inputs := by
  induction inputs generalizing s with
  | nil => cases reached
  | cons a rest ih =>
      rcases List.mem_cons.mp reached with rfl | later
      · exact List.mem_cons_self
      · exact List.mem_cons_of_mem a (ih later)

theorem stages_append (s : σ) (before after : List α) :
    stages next s (before ++ after) =
      stages next s before ++ stages next (before.foldl next s) after := by
  induction before generalizing s with
  | nil => rfl
  | cons a before ih => rw [List.cons_append, stages, ih, stages, List.foldl_cons, List.cons_append]

theorem mem_stages_append (s : σ) (before : List α) (a : α) (after : List α) :
    (before.foldl next s, a) ∈ stages next s (before ++ a :: after) := by
  rw [stages_append]
  exact List.mem_append_right _ List.mem_cons_self

def states (next : σ → α → σ) : σ → List α → List σ
  | s, [] => [s]
  | s, a :: rest => s :: states next (next s a) rest

/-- What every step keeps holds of every state of a run. -/
theorem states_induction (Invariant : σ → Prop) (step : ∀ s a, Invariant s → Invariant (next s a))
    {s : σ} (initial : Invariant s) (inputs : List α) :
    ∀ t ∈ states next s inputs, Invariant t := by
  induction inputs generalizing s with
  | nil =>
      intro t reached
      rw [List.mem_singleton.mp reached]
      exact initial
  | cons a rest ih =>
      intro t reached
      rcases List.mem_cons.mp reached with rfl | later
      · exact initial
      · exact ih (step s a initial) t later

theorem foldl_mem_states (s : σ) (inputs : List α) :
    inputs.foldl next s ∈ states next s inputs := by
  induction inputs generalizing s with
  | nil => exact List.mem_singleton_self s
  | cons a rest ih => exact List.mem_cons_of_mem s (ih (next s a))

/-- The stages before a stage are those of a run that ends where the stage begins. -/
theorem exists_run_of_split {s : σ} {inputs : List α} {before after : List (σ × α)}
    {stage : σ × α} (split : stages next s inputs = before ++ stage :: after) :
    ∃ earlier, stages next s earlier = before ∧ earlier.foldl next s = stage.1 := by
  induction before generalizing s inputs with
  | nil =>
      cases inputs with
      | nil => simp [stages] at split
      | cons a rest =>
          obtain ⟨rfl, -⟩ := List.cons.inj split
          exact ⟨[], rfl, rfl⟩
  | cons first before ih =>
      cases inputs with
      | nil => simp [stages] at split
      | cons a rest =>
          obtain ⟨rfl, rest_split⟩ := List.cons.inj split
          obtain ⟨earlier, same, reached⟩ := ih rest_split
          exact ⟨a :: earlier, by rw [stages, same], reached⟩

/-- What holds of an empty history and is kept by every step holds of the history of a run. -/
theorem history_induction (Invariant : List (σ × α) → σ → Prop) {s : σ} (initial : Invariant [] s)
    (step : ∀ history t a, Invariant history t → Invariant (history ++ [(t, a)]) (next t a))
    (inputs : List α) : Invariant (stages next s inputs) (inputs.foldl next s) := by
  -- The induction is from the front, so it starts from the history of the steps already taken.
  have later : ∀ history t, Invariant history t →
      Invariant (history ++ stages next t inputs) (inputs.foldl next t) := by
    induction inputs with
    | nil =>
        intro history t holds
        simpa [stages] using holds
    | cons a rest ih =>
        intro history t holds
        have after := ih _ _ (step history t a holds)
        simpa [stages] using after
  exact later [] s initial

/-- What one step preserves and shows, a run preserves and shows at every stage. -/
theorem stages_induction (Invariant : σ → Prop) (Allowed Shown : σ → α → Prop)
    (step : ∀ s a, Invariant s → Allowed s a → Shown s a ∧ Invariant (next s a)) {s : σ}
    {inputs : List α} (initial : Invariant s)
    (allowed : ∀ stage ∈ stages next s inputs, Allowed stage.1 stage.2) :
    ∀ stage ∈ stages next s inputs, Shown stage.1 stage.2 := by
  induction inputs generalizing s with
  | nil =>
      intro stage reached
      cases reached
  | cons a rest ih =>
      have first := step s a initial (allowed (s, a) List.mem_cons_self)
      intro stage reached
      rcases List.mem_cons.mp reached with rfl | later
      · exact first.1
      · refine ih first.2 ?_ stage later
        intro stage reached
        exact allowed stage (List.mem_cons_of_mem _ reached)

/-- What no step lowers is at no stage higher than at the end of the run. -/
theorem le_foldl (Invariant : σ → Prop) (measure : σ → Nat)
    (step : ∀ s a, Invariant s → Invariant (next s a) ∧ measure s ≤ measure (next s a)) {s : σ}
    (initial : Invariant s) (inputs : List α) : measure s ≤ measure (inputs.foldl next s) := by
  induction inputs generalizing s with
  | nil => exact Nat.le_refl _
  | cons a rest ih =>
      have first := step s a initial
      exact Nat.le_trans first.2 (ih first.1)

theorem next_le_foldl (Invariant : σ → Prop) (measure : σ → Nat)
    (step : ∀ s a, Invariant s → Invariant (next s a) ∧ measure s ≤ measure (next s a)) {s : σ}
    (initial : Invariant s) {inputs : List α} :
    ∀ stage ∈ stages next s inputs,
      measure (next stage.1 stage.2) ≤ measure (inputs.foldl next s) := by
  induction inputs generalizing s with
  | nil =>
      intro stage reached
      cases reached
  | cons a rest ih =>
      have first := step s a initial
      intro stage reached
      rcases List.mem_cons.mp reached with rfl | later
      · exact le_foldl Invariant measure step first.1 rest
      · exact ih first.1 stage later

/-- What each step raises by at most one is raised by at most the length of the run. -/
theorem foldl_le_add_length (Invariant : σ → Prop) (measure : σ → Nat)
    (step : ∀ s a, Invariant s → Invariant (next s a) ∧ measure (next s a) ≤ measure s + 1)
    {s : σ} (initial : Invariant s) (inputs : List α) :
    measure (inputs.foldl next s) ≤ measure s + inputs.length := by
  induction inputs generalizing s with
  | nil => exact Nat.le_refl _
  | cons a rest ih =>
      have first := step s a initial
      have rest_le := ih first.1
      rw [List.foldl_cons, List.length_cons]
      omega

end Run

end Gatekeeper
