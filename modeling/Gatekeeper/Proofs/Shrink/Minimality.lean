import Gatekeeper.Proofs.Shrink.Fixpoint

/-!
# Shrunk lists are minimal

Whatever the test, a shrunk list fails and no deletion or simplification of a
single operation does; shrinking it again changes nothing.  A shrunk list that is
no longer than the limit has no failing proper subsequence at all.
-/

namespace Gatekeeper

namespace Shrink

variable (fails : List Operation → Bool) (limit : Int)

/-! ## Checking for local minimality -/

theorem resists_cons (before : List Operation) (op : Operation) (rest : List Operation) :
    resists (m := Id) fails before (op :: rest) =
      if fails (before ++ rest) then false
      else if op.simpler.any fun variant => fails (before ++ variant :: rest) then false
      else resists (m := Id) fails (before ++ [op]) rest := by
  have variants : failsSimplified (m := Id) fails before op rest =
      op.simpler.any fun variant => fails (before ++ variant :: rest) :=
    List.anyM_pure (m := Id)
  rw [← variants]
  rfl

theorem resists_cons_iff (before : List Operation) (op : Operation) (rest : List Operation) :
    resists (m := Id) fails before (op :: rest) = true ↔
      (fails (before ++ rest) = false ∧
        ∀ variant ∈ op.simpler, fails (before ++ variant :: rest) = false) ∧
      resists (m := Id) fails (before ++ [op]) rest = true := by
  have variants : (op.simpler.any fun variant => fails (before ++ variant :: rest)) = false ↔
      ∀ variant ∈ op.simpler, fails (before ++ variant :: rest) = false := by
    simp
  rw [resists_cons, ← variants]
  cases fails (before ++ rest) with
  | true => simp
  | false =>
      cases op.simpler.any fun variant => fails (before ++ variant :: rest) with
      | true => simp
      | false => simp

theorem resists_iff (before rest : List Operation) :
    resists (m := Id) fails before rest = true ↔
      ∀ inner op after, rest = inner ++ op :: after →
        fails (before ++ (inner ++ after)) = false ∧
          ∀ variant ∈ op.simpler, fails (before ++ (inner ++ variant :: after)) = false := by
  induction rest generalizing before with
  | nil =>
      refine ⟨fun _ inner op after split => ?_, fun _ => rfl⟩
      simp at split
  | cons first rest ih =>
      rw [resists_cons_iff, ih]
      constructor
      · rintro ⟨here, there⟩ inner op after split
        cases inner with
        | nil =>
            obtain ⟨rfl, rfl⟩ := List.cons.inj split
            exact here
        | cons _ inner =>
            obtain ⟨rfl, rfl⟩ := List.cons.inj split
            simpa using there inner op after rfl
      · intro each
        refine ⟨each [] first rest rfl, fun inner op after split => ?_⟩
        simpa using each (first :: inner) op after (by rw [split]; rfl)

theorem isLocallyMinimal_iff (ops : List Operation) :
    isLocallyMinimal (m := Id) fails ops = true ↔
      fails ops = true ∧ ResistsDeletion fails ops ∧ ResistsSimplification fails ops := by
  have checked : isLocallyMinimal (m := Id) fails ops =
      if fails ops then resists (m := Id) fails [] ops else false := rfl
  rw [checked]
  split
  · next failing =>
    rw [resists_iff]
    constructor
    · intro each
      exact ⟨failing, fun before op after split => (each before op after split).1,
        fun before op after split => (each before op after split).2⟩
    · rintro ⟨_, deletion, simplification⟩ before op after split
      exact ⟨deletion before op after split, simplification before op after split⟩
  · next passing => simp [passing]

/-! ## Lists that a round does not change -/

theorem ResistsOmission.resistsDeletion {ops : List Operation}
    (omission : ResistsOmission fails ops) : ResistsDeletion fails ops := by
  intro before op after split
  have sublist : (before ++ after).Sublist ops := by
    rw [split]
    exact (List.sublist_cons_self op after).append_left before
  refine omission _ sublist fun same => ?_
  have sameLength := congrArg List.length same
  rw [split] at sameLength
  simp only [List.length_append, List.length_cons] at sameLength
  omega

theorem resistsOmission_of_afterRound_eq {ops : List Operation}
    (unchanged : afterRound fails limit ops = ops) (short : (ops.length : Int) ≤ limit) :
    ResistsOmission fails ops := by
  have minimized := (parts_of_afterRound_eq fails limit unchanged).2.1
  rw [minimize, if_neg (Int.not_lt.mpr short)] at minimized
  exact resistsOmission_of_smallestSubsequence_eq fails minimized

theorem resistsDeletion_of_afterRound_eq {ops : List Operation}
    (unchanged : afterRound fails limit ops = ops) : ResistsDeletion fails ops := by
  rcases Int.lt_or_le limit ops.length with long | short
  · have reduced := (parts_of_afterRound_eq fails limit unchanged).1
    rw [reduce, if_pos long] at reduced
    rw [← reduced]
    exact deleteChunks_resistsDeletion fails ops
  · exact (resistsOmission_of_afterRound_eq fails limit unchanged short).resistsDeletion

/-- Within the limit, the first round already looks through all subsequences. -/
theorem length_pruned_le {ops picked : List Operation} (short : (ops.length : Int) ≤ limit)
    (sublist : picked.Sublist ops) (failing : fails picked = true) :
    (pruned fails limit ops).length ≤ picked.length := by
  rw [pruned, reduce, if_neg (Int.not_lt.mpr short)]
  change (minimize (m := Id) fails limit ops).length ≤ picked.length
  rw [minimize, if_neg (Int.not_lt.mpr short)]
  exact length_smallestSubsequence_le fails sublist failing

/-! ## Shrunk lists -/

/-- A shrunk list is locally minimal, and a fixpoint of shrinking. -/
theorem shrink_locallyMinimal {ops : List Operation} (failing : fails ops = true) :
    ∃ shrunk, shrink (m := Id) fails limit ops = some shrunk ∧
      isLocallyMinimal (m := Id) fails shrunk.operations = true ∧
      fails shrunk.operations = true ∧
      ResistsDeletion fails shrunk.operations ∧
      ResistsSimplification fails shrunk.operations ∧
      ∃ again, shrink (m := Id) fails limit shrunk.operations = some again ∧
        again.operations = shrunk.operations := by
  have fixed := afterRound_settled fails limit ops
  have failing' := fails_settled fails limit failing
  have deletion := resistsDeletion_of_afterRound_eq fails limit fixed
  have simplification :=
    resistsSimplification_of_simplify_eq fails (parts_of_afterRound_eq fails limit fixed).2.2
  refine ⟨_, shrink_of_fails fails limit failing, ?_, failing', deletion, simplification,
    _, shrink_of_fails fails limit failing', ?_⟩
  · exact (isLocallyMinimal_iff fails _).mpr ⟨failing', deletion, simplification⟩
  · exact settled_of_afterRound_eq fails limit fixed

/-- A test with a failing list that no sequence of deletions leads to: one operation fails
beside none of two others. -/
def failsWithDetour (ops : List Operation) : Bool :=
  decide (.logout "Alice" ∈ ops ∧ .logout "Bob" ∈ ops ∧ .logout "Carol" ∈ ops) ||
    decide (.accessSecret "Dave" ∈ ops ∧ .logout "Bob" ∉ ops ∧ .logout "Carol" ∉ ops)

theorem shrink_locallyMinimal_detour :
    failsWithDetour [.logout "Alice", .logout "Bob", .logout "Carol", .accessSecret "Dave"] = true ∧
    ∃ shrunk, shrink (m := Id) failsWithDetour 0
        [.logout "Alice", .logout "Bob", .logout "Carol", .accessSecret "Dave"] = some shrunk ∧
      isLocallyMinimal (m := Id) failsWithDetour shrunk.operations = true ∧
      failsWithDetour shrunk.operations = true ∧
      ResistsDeletion failsWithDetour shrunk.operations ∧
      ResistsSimplification failsWithDetour shrunk.operations ∧
      ∃ again, shrink (m := Id) failsWithDetour 0 shrunk.operations = some again ∧
        again.operations = shrunk.operations :=
  ⟨by decide, shrink_locallyMinimal failsWithDetour 0 (by decide)⟩

/-- Within the limit, shrinking finds a failing list that no failing subsequence of the
given list is shorter than; and a shrunk list within the limit has no failing proper
subsequence. -/
theorem shrink_globallyMinimal {ops : List Operation} (failing : fails ops = true) :
    ∃ shrunk, shrink (m := Id) fails limit ops = some shrunk ∧
      ((ops.length : Int) ≤ limit → ∀ picked : List Operation, picked.Sublist ops →
        fails picked = true → shrunk.operations.length ≤ picked.length) ∧
      ((shrunk.operations.length : Int) ≤ limit →
        ∀ picked : List Operation, picked.Sublist shrunk.operations →
          picked ≠ shrunk.operations → fails picked = false) := by
  refine ⟨_, shrink_of_fails fails limit failing, ?_, ?_⟩
  · intro short picked sublist failing'
    have first := length_pruned_le fails limit short sublist failing'
    have later := length_settled_le_afterRound fails limit ops
    rw [length_afterRound] at later
    exact Nat.le_trans later first
  · exact resistsOmission_of_afterRound_eq fails limit (afterRound_settled fails limit ops)

/-- Within the limit the detour does not matter: the single operation is found. -/
theorem shrink_globallyMinimal_detour :
    failsWithDetour [.logout "Alice", .logout "Bob", .logout "Carol", .accessSecret "Dave"] = true ∧
    ∃ shrunk, shrink (m := Id) failsWithDetour 4
        [.logout "Alice", .logout "Bob", .logout "Carol", .accessSecret "Dave"] = some shrunk ∧
      shrunk.operations.length ≤ 1 ∧
      ∀ picked : List Operation, picked.Sublist shrunk.operations →
        picked ≠ shrunk.operations → failsWithDetour picked = false := by
  have failing : failsWithDetour
      [.logout "Alice", .logout "Bob", .logout "Carol", .accessSecret "Dave"] = true := by
    decide
  obtain ⟨shrunk, found, shortest, minimal⟩ := shrink_globallyMinimal failsWithDetour 4 failing
  have single : shrunk.operations.length ≤ 1 :=
    shortest (by decide) [.accessSecret "Dave"] (by decide) (by decide)
  exact ⟨failing, shrunk, found, single, minimal (by omega)⟩

end Shrink

end Gatekeeper
