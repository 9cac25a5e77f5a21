/-!
# The smallest failing subsequence

All subsequences of a list in the order of their sizes; among those of one size
the one that keeps earlier elements comes first.
-/

namespace Gatekeeper

namespace Shrink

variable {α : Type}

def combinations : (size : Nat) → List α → List (List α)
  | 0, _ => [[]]
  | _ + 1, [] => []
  | size + 1, x :: rest =>
      (combinations size rest).map (x :: ·) ++ combinations (size + 1) rest

theorem mem_combinations {size : Nat} {xs picked : List α} :
    picked ∈ combinations size xs ↔ picked.Sublist xs ∧ picked.length = size := by
  induction xs generalizing size picked with
  | nil =>
      cases size with
      | zero => simp +contextual [combinations]
      | succ size => simp +contextual [combinations, eq_comm]
  | cons x rest ih =>
      cases size with
      | zero =>
          simp only [combinations, List.mem_singleton, List.length_eq_zero_iff]
          exact ⟨fun h => ⟨h ▸ List.nil_sublist _, h⟩, And.right⟩
      | succ size =>
          simp only [combinations, List.mem_append, List.mem_map, ih]
          constructor
          · rintro (⟨p, ⟨hs, hl⟩, rfl⟩ | ⟨hs, hl⟩)
            · exact ⟨hs.cons_cons x, by simp [hl]⟩
            · exact ⟨hs.cons x, hl⟩
          · rintro ⟨hs, hl⟩
            cases hs with
            | cons _ hs => exact .inr ⟨hs, hl⟩
            | cons_cons _ hs => exact .inl ⟨_, ⟨hs, by simpa using hl⟩, rfl⟩

variable {m : Type → Type} [Monad m]

/-- The first failing subsequence of any of the sizes, or else the list itself. -/
def firstOfSizes (fails : List α → m Bool) (xs : List α) : (sizes : List Nat) → m (List α)
  | [] => pure xs
  | size :: sizes => do
      match ← (combinations size xs).findM? fails with
      | some picked => return picked
      | none => firstOfSizes fails xs sizes

def smallestSubsequence (fails : List α → m Bool) (xs : List α) : m (List α) :=
  firstOfSizes fails xs (List.range (xs.length + 1))

end Shrink

end Gatekeeper
