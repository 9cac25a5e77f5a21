import Gatekeeper.Shrink.Subsequence

/-!
# The smallest failing subsequence is smallest

For a test without effects, the search through the sizes in increasing order
ends with a subsequence that no failing subsequence is shorter than.
-/

namespace Gatekeeper

namespace Shrink

variable {α : Type} (fails : List α → Bool)

/-- No subsequence is both shorter and failing. -/
def ResistsOmission (xs : List α) : Prop :=
  ∀ picked : List α, picked.Sublist xs → picked ≠ xs → fails picked = false

theorem firstOfSizes_cons (xs : List α) (size : Nat) (sizes : List Nat) :
    firstOfSizes (m := Id) fails xs (size :: sizes) =
      match (combinations size xs).find? fails with
      | some picked => picked
      | none => firstOfSizes (m := Id) fails xs sizes := by
  have search : (combinations size xs).findM? (m := Id) fails =
      (combinations size xs).find? fails := List.idRun_findM? fails _
  rw [firstOfSizes, search]
  rfl

/-- The search ends with the list itself or with a failing subsequence of one of the sizes. -/
theorem firstOfSizes_cases (xs : List α) (sizes : List Nat) :
    firstOfSizes (m := Id) fails xs sizes = xs ∨
      (firstOfSizes (m := Id) fails xs sizes).Sublist xs ∧
        fails (firstOfSizes (m := Id) fails xs sizes) = true := by
  induction sizes with
  | nil => exact .inl rfl
  | cons size sizes ih =>
      rw [firstOfSizes_cons]
      cases found : (combinations size xs).find? fails with
      | none => exact ih
      | some picked =>
          have member := mem_combinations.mp (List.mem_of_find?_eq_some found)
          exact .inr ⟨member.1, List.find?_some found⟩

/-- With the sizes in increasing order, what is found is no longer than any failing
subsequence of one of them. -/
theorem length_firstOfSizes_le (xs : List α) (sizes : List Nat)
    (increasing : sizes.Pairwise (· < ·)) {picked : List α} (sublist : picked.Sublist xs)
    (failing : fails picked = true) (size_mem : picked.length ∈ sizes) :
    (firstOfSizes (m := Id) fails xs sizes).length ≤ picked.length := by
  induction sizes with
  | nil => simp at size_mem
  | cons size sizes ih =>
      obtain ⟨least, increasing⟩ := List.pairwise_cons.mp increasing
      rw [firstOfSizes_cons]
      cases found : (combinations size xs).find? fails with
      | none =>
          have other : picked.length ≠ size := by
            intro same
            have member := mem_combinations.mpr ⟨sublist, same⟩
            exact List.find?_eq_none.mp found picked member failing
          exact ih increasing ((List.mem_cons.mp size_mem).resolve_left other)
      | some first =>
          have member := mem_combinations.mp (List.mem_of_find?_eq_some found)
          rcases List.mem_cons.mp size_mem with same | later
          · exact Nat.le_of_eq (member.2.trans same.symm)
          · have := least _ later
            simp only [member.2]
            omega

theorem smallestSubsequence_sublist (xs : List α) :
    (smallestSubsequence (m := Id) fails xs).Sublist xs := by
  rcases firstOfSizes_cases fails xs (List.range (xs.length + 1)) with same | found
  · have unchanged : smallestSubsequence (m := Id) fails xs = xs := same
    simp [unchanged]
  · exact found.1

theorem smallestSubsequence_eq_or_fails (xs : List α) :
    smallestSubsequence (m := Id) fails xs = xs ∨
      fails (smallestSubsequence (m := Id) fails xs) = true :=
  (firstOfSizes_cases fails xs _).imp_right And.right

theorem length_smallestSubsequence_le {xs picked : List α} (sublist : picked.Sublist xs)
    (failing : fails picked = true) :
    (smallestSubsequence (m := Id) fails xs).length ≤ picked.length :=
  length_firstOfSizes_le fails xs _ List.pairwise_lt_range sublist failing
    (List.mem_range.mpr (Nat.lt_succ_of_le sublist.length_le))

/-- A list that is its own smallest failing subsequence has no other. -/
theorem resistsOmission_of_smallestSubsequence_eq {xs : List α}
    (unchanged : smallestSubsequence (m := Id) fails xs = xs) : ResistsOmission fails xs := by
  intro picked sublist other
  cases failing : fails picked with
  | false => rfl
  | true =>
      have least := length_smallestSubsequence_le fails sublist failing
      rw [unchanged] at least
      exact absurd (sublist.eq_of_length_le least) other

end Shrink

end Gatekeeper
