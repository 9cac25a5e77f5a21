import Gatekeeper.Shrink.Deletion

/-!
# What deleting chunks leaves

For a test without effects, deletion of chunks ends with a subsequence of the
list it starts from.  That subsequence fails unless nothing was deleted, and it
resists every deletion of a single element: the last sweep goes over it with
chunks of one element and finds nothing to delete.
-/

namespace Gatekeeper

namespace Shrink

variable {α : Type} (fails : List α → Bool)

/-- No deletion of a single element leaves a failing list. -/
def ResistsDeletion (xs : List α) : Prop :=
  ∀ before x after, xs = before ++ x :: after → fails (before ++ after) = false

/-- The same with the place of the element that is deleted. -/
theorem resistsDeletion_iff {xs : List α} :
    ResistsDeletion fails xs ↔ ∀ i < xs.length, fails (xs.take i ++ xs.drop (i + 1)) = false := by
  constructor
  · intro resists i within
    refine resists (xs.take i) xs[i] (xs.drop (i + 1)) ?_
    rw [List.getElem_cons_drop, List.take_append_drop]
  · rintro each before x after rfl
    simpa using each before.length (by simp)

/-! ## One sweep -/

theorem sweep_nil (size : Nat) (kept : List α) : sweep (m := Id) fails size kept [] = kept := by
  rw [sweep]
  rfl

theorem sweep_cons (size : Nat) (kept : List α) (x : α) (tail : List α) :
    sweep (m := Id) fails size kept (x :: tail) =
      if fails (kept ++ tail.drop (size - 1)) then
        sweep (m := Id) fails size kept (tail.drop (size - 1))
      else
        sweep (m := Id) fails size (kept ++ x :: tail.take (size - 1)) (tail.drop (size - 1)) := by
  rw [sweep]
  rfl

theorem sweep_sublist (size : Nat) (kept rest : List α) :
    (sweep (m := Id) fails size kept rest).Sublist (kept ++ rest) := by
  induction kept, rest using sweep.induct size with
  | case1 kept => simp [sweep_nil]
  | case2 kept x tail deleted passed =>
      rw [sweep_cons]
      split
      · have shorter : (tail.drop (size - 1)).Sublist (x :: tail) :=
          (List.drop_sublist _ _).trans (List.sublist_cons_self _ _)
        exact deleted.trans (shorter.append_left kept)
      · simpa using passed

/-- A sweep that deletes something ends with a failing list. -/
theorem sweep_eq_or_fails (size : Nat) (kept rest : List α) :
    sweep (m := Id) fails size kept rest = kept ++ rest ∨
      fails (sweep (m := Id) fails size kept rest) = true := by
  induction kept, rest using sweep.induct size with
  | case1 kept => simp [sweep_nil]
  | case2 kept x tail deleted passed =>
      rw [sweep_cons]
      split
      · next failing =>
        rcases deleted with unchanged | fails'
        · exact .inr (by rw [unchanged]; exact failing)
        · exact .inr fails'
      · simpa using passed

/-- A sweep with single elements that changes nothing has tried every single deletion. -/
theorem not_fails_of_sweep_eq {size : Nat} (single : size ≤ 1) (kept rest : List α)
    (unchanged : sweep (m := Id) fails size kept rest = kept ++ rest)
    (before : List α) (x : α) (after : List α) (split : rest = before ++ x :: after) :
    fails (kept ++ (before ++ after)) = false := by
  have hsize : size - 1 = 0 := by omega
  induction rest generalizing kept before with
  | nil => simp at split
  | cons y tail ih =>
      rw [sweep_cons, hsize, List.drop_zero, List.take_zero] at unchanged
      by_cases failing : fails (kept ++ tail) = true
      · -- a list from which `y` is deleted stays too short for `kept ++ y :: tail`
        rw [if_pos failing] at unchanged
        have short := (sweep_sublist fails size kept tail).length_le
        rw [unchanged] at short
        simp only [List.length_append, List.length_cons] at short
        omega
      · rw [if_neg failing] at unchanged
        cases before with
        | nil =>
            obtain ⟨rfl, rfl⟩ := List.cons.inj split
            simpa using failing
        | cons z before =>
            obtain ⟨rfl, rfl⟩ := List.cons.inj split
            have passed := ih (kept ++ [y]) (by simpa using unchanged) before rfl
            simpa using passed

/-! ## Sweeps with smaller and smaller chunks -/

theorem deleteFrom_eq (size : Nat) (xs : List α) :
    deleteFrom (m := Id) fails size xs =
      if xs.isEmpty then xs
      else
        let left := sweep (m := Id) fails size [] xs
        if 1 < size then deleteFrom (m := Id) fails (size / 2) left
        else if left.length < xs.length then deleteFrom (m := Id) fails size left
        else left := by
  rw [deleteFrom]
  by_cases empty : xs.isEmpty = true
  · rw [if_pos empty, if_pos empty]
    rfl
  · rw [if_neg empty, if_neg empty]
    by_cases chunks : 1 < size
    · simp only [chunks]
      rfl
    · simp only [chunks]
      rfl

/-- What every sweep keeps, all of them together keep. -/
theorem deleteFrom_induction {motive : List α → Prop}
    (swept : ∀ size xs, motive xs → motive (sweep (m := Id) fails size [] xs))
    (size : Nat) (xs : List α) (start : motive xs) :
    motive (deleteFrom (m := Id) fails size xs) := by
  induction size, xs using deleteFrom.induct with
  | case1 size xs empty =>
      rw [deleteFrom_eq, if_pos empty]
      exact start
  | case2 size xs nonempty smaller again =>
      have left := swept size xs start
      rw [deleteFrom_eq, if_neg nonempty]
      dsimp only
      split
      · next chunks => exact smaller _ chunks left
      · split
        · next shorter => exact again _ shorter left
        · exact left

/-- The last sweep has tried every single deletion. -/
theorem deleteFrom_resistsDeletion (size : Nat) (xs : List α) :
    ResistsDeletion fails (deleteFrom (m := Id) fails size xs) := by
  induction size, xs using deleteFrom.induct with
  | case1 size xs empty =>
      rw [deleteFrom_eq, if_pos empty, List.isEmpty_iff.mp empty]
      intro before x after split
      simp at split
  | case2 size xs nonempty smaller again =>
      rw [deleteFrom_eq, if_neg nonempty]
      dsimp only
      split
      · next chunks => exact smaller _ chunks
      · next single =>
        split
        · next shorter => exact again _ shorter
        · next long =>
          have unchanged : sweep (m := Id) fails size [] xs = xs := by
            have sublist : (sweep (m := Id) fails size [] xs).Sublist xs :=
              sweep_sublist fails size [] xs
            exact sublist.eq_of_length_le (Nat.le_of_not_lt long)
          rw [unchanged]
          intro before x after split
          exact not_fails_of_sweep_eq fails (Nat.le_of_not_lt single) [] xs unchanged
            before x after split

/-! ## All sweeps -/

theorem deleteChunks_sublist (xs : List α) :
    (deleteChunks (m := Id) fails xs).Sublist xs :=
  deleteFrom_induction fails (motive := fun left => left.Sublist xs)
    (fun size left sublist => (sweep_sublist fails size [] left).trans sublist) _ xs
    (List.Sublist.refl xs)

theorem deleteChunks_eq_or_fails (xs : List α) :
    deleteChunks (m := Id) fails xs = xs ∨ fails (deleteChunks (m := Id) fails xs) = true := by
  refine deleteFrom_induction fails (motive := fun left => left = xs ∨ fails left = true)
    (fun size left kept => ?_) _ xs (.inl rfl)
  rcases sweep_eq_or_fails fails size [] left with unchanged | failing
  · rw [unchanged]
    exact kept
  · exact .inr failing

theorem deleteChunks_resistsDeletion (xs : List α) :
    ResistsDeletion fails (deleteChunks (m := Id) fails xs) :=
  deleteFrom_resistsDeletion fails _ xs

end Shrink

end Gatekeeper
