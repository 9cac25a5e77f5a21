import Gatekeeper.Shrink.Simplification

/-!
# What simplifying leaves

For a test without effects, simplification keeps the number of operations, makes
a list less noisy if it changes it at all, and ends with a failing list if it
started from one.  What it leaves unchanged resists every single simplification.
-/

namespace Gatekeeper

namespace Shrink

variable (fails : List Operation → Bool)

/-- No simplification of a single operation leaves a failing list. -/
def ResistsSimplification (ops : List Operation) : Prop :=
  ∀ before op after, ops = before ++ op :: after →
    ∀ variant ∈ op.simpler, fails (before ++ variant :: after) = false

@[simp] theorem noise_cons (op : Operation) (rest : List Operation) :
    noise (op :: rest) = op.noise + noise rest := rfl

@[simp] theorem noise_append (xs ys : List Operation) :
    noise (xs ++ ys) = noise xs + noise ys := by
  induction xs with
  | nil => simp [noise]
  | cons op rest ih =>
      rw [List.cons_append, noise_cons, noise_cons, ih]
      omega

theorem noise_lt_of_simpler {op variant : Operation} (simpler : variant ∈ op.simpler)
    (before after : List Operation) :
    noise (before ++ variant :: after) < noise (before ++ op :: after) := by
  have quieter := Operation.noise_lt_of_mem_simpler simpler
  simp only [noise_append, noise_cons]
  omega

/-! ## One pass -/

theorem simplifyEach_nil (done : List Operation) :
    simplifyEach (m := Id) fails done [] = done := rfl

theorem simplifyEach_cons (done : List Operation) (op : Operation) (rest : List Operation) :
    simplifyEach (m := Id) fails done (op :: rest) =
      match op.simpler.find? fun variant => fails (done ++ variant :: rest) with
      | some variant => simplifyEach (m := Id) fails (done ++ [variant]) rest
      | none => simplifyEach (m := Id) fails (done ++ [op]) rest := by
  have search : op.simpler.findM? (m := Id) (fun variant => fails (done ++ variant :: rest)) =
      op.simpler.find? fun variant => fails (done ++ variant :: rest) := List.idRun_findM? _ _
  rw [simplifyEach, search]
  rfl

theorem length_simplifyEach (done rest : List Operation) :
    (simplifyEach (m := Id) fails done rest).length = done.length + rest.length := by
  induction done, rest using simplifyEach.induct with
  | case1 done => rfl
  | case2 done op rest simplified passed =>
      rw [simplifyEach_cons]
      split
      · next variant _ =>
        rw [simplified variant, List.length_append, List.length_singleton, List.length_cons]
        omega
      · rw [passed, List.length_append, List.length_singleton, List.length_cons]
        omega

/-- A pass either changes nothing or ends with a failing list of less noise. -/
theorem simplifyEach_cases (done rest : List Operation) :
    simplifyEach (m := Id) fails done rest = done ++ rest ∨
      fails (simplifyEach (m := Id) fails done rest) = true ∧
        noise (simplifyEach (m := Id) fails done rest) < noise (done ++ rest) := by
  induction done, rest using simplifyEach.induct with
  | case1 done => simp [simplifyEach_nil]
  | case2 done op rest simplified passed =>
      rw [simplifyEach_cons]
      split
      · next variant found =>
        have failing : fails (done ++ variant :: rest) = true := by
          simpa using List.find?_some found
        have quieter := noise_lt_of_simpler (List.mem_of_find?_eq_some found) done rest
        have later := simplified variant
        rw [List.append_assoc, List.singleton_append] at later
        rcases later with unchanged | ⟨failing', less⟩
        · exact .inr (by rw [unchanged]; exact ⟨failing, quieter⟩)
        · exact .inr ⟨failing', Nat.lt_trans less quieter⟩
      · simpa using passed

theorem noise_simplifyEach_le (done rest : List Operation) :
    noise (simplifyEach (m := Id) fails done rest) ≤ noise (done ++ rest) := by
  rcases simplifyEach_cases fails done rest with unchanged | ⟨_, less⟩
  · exact Nat.le_of_eq (congrArg noise unchanged)
  · exact Nat.le_of_lt less

/-- A pass that changes nothing has tried every variant of every operation. -/
theorem not_fails_of_simplifyEach_eq (done rest : List Operation)
    (unchanged : simplifyEach (m := Id) fails done rest = done ++ rest)
    (before : List Operation) (op : Operation) (after : List Operation)
    (split : rest = before ++ op :: after) (variant : Operation) (simpler : variant ∈ op.simpler) :
    fails (done ++ (before ++ variant :: after)) = false := by
  induction rest generalizing done before with
  | nil => simp at split
  | cons first rest ih =>
      rw [simplifyEach_cons] at unchanged
      cases found : first.simpler.find? fun variant => fails (done ++ variant :: rest) with
      | some accepted =>
          -- an accepted variant makes the noise less, so the pass would have changed the list
          have quieter := noise_lt_of_simpler (List.mem_of_find?_eq_some found) done rest
          have rests := noise_simplifyEach_le fails (done ++ [accepted]) rest
          simp only [found] at unchanged
          rw [unchanged, List.append_assoc, List.singleton_append] at rests
          omega
      | none =>
          rw [found] at unchanged
          cases before with
          | nil =>
              obtain ⟨rfl, rfl⟩ := List.cons.inj split
              simpa using List.find?_eq_none.mp found variant simpler
          | cons head before =>
              obtain ⟨rfl, rfl⟩ := List.cons.inj split
              have passed := ih (done ++ [first]) (by simpa using unchanged) before rfl
              simpa using passed

/-! ## All passes -/

theorem simplify_eq (ops : List Operation) :
    simplify (m := Id) fails ops =
      let after := simplifyEach (m := Id) fails [] ops
      if noise after < noise ops then simplify (m := Id) fails after else after := by
  rw [simplify]
  rfl

theorem length_simplify (ops : List Operation) :
    (simplify (m := Id) fails ops).length = ops.length := by
  induction ops using simplify.induct with
  | case1 ops again =>
      have pass : (simplifyEach (m := Id) fails [] ops).length = ops.length := by
        simpa using length_simplifyEach fails [] ops
      rw [simplify_eq]
      dsimp only
      split
      · next quieter => exact (again _ quieter).trans pass
      · exact pass

/-- Simplification changes nothing or ends with a failing list of less noise. -/
theorem simplify_cases (ops : List Operation) :
    simplify (m := Id) fails ops = ops ∨
      fails (simplify (m := Id) fails ops) = true ∧
        noise (simplify (m := Id) fails ops) < noise ops := by
  induction ops using simplify.induct with
  | case1 ops again =>
      have pass := simplifyEach_cases fails [] ops
      rw [List.nil_append] at pass
      rw [simplify_eq]
      dsimp only
      split
      · next quieter =>
        rcases again _ quieter with unchanged | ⟨failing, less⟩
        · rw [unchanged]
          exact pass
        · exact .inr ⟨failing, Nat.lt_trans less quieter⟩
      · exact pass

/-- What simplification leaves unchanged, its one pass over it has left unchanged. -/
theorem resistsSimplification_of_simplify_eq {ops : List Operation}
    (unchanged : simplify (m := Id) fails ops = ops) : ResistsSimplification fails ops := by
  have pass : simplifyEach (m := Id) fails [] ops = ops := by
    rw [simplify_eq] at unchanged
    dsimp only at unchanged
    split at unchanged
    · next quieter =>
      rcases simplify_cases fails (simplifyEach (m := Id) fails [] ops) with same | ⟨_, less⟩
      · exact same.symm.trans unchanged
      · rw [unchanged] at less
        omega
    · exact unchanged
  intro before op after split variant simpler
  exact not_fails_of_simplifyEach_eq fails [] ops pass before op after split variant simpler

end Shrink

end Gatekeeper
