import Gatekeeper.Proofs.Shrink.Minimality
import Gatekeeper.Proofs.Shrink.Reduction

/-!
# Shrinking with tests that may have effects

A test that has no effect on the lists it is made on shrinks a list just as the plain
test does.  All lists that shrinking tries are made of the operations of the first one
and of simpler ones, so nothing is asked of the test on other lists.
-/

namespace Gatekeeper

namespace Shrink

/-! ## Lists of allowed elements -/

section Within

variable {α : Type} {Allowed : α → Prop}

def Within (Allowed : α → Prop) (xs : List α) : Prop := ∀ x ∈ xs, Allowed x

theorem within_nil : Within Allowed [] := nofun

theorem within_append {xs ys : List α} :
    Within Allowed (xs ++ ys) ↔ Within Allowed xs ∧ Within Allowed ys :=
  List.forall_mem_append

theorem within_cons {x : α} {xs : List α} :
    Within Allowed (x :: xs) ↔ Allowed x ∧ Within Allowed xs :=
  List.forall_mem_cons

theorem Within.of_sublist {xs ys : List α} (within : Within Allowed ys) (sublist : xs.Sublist ys) :
    Within Allowed xs :=
  fun x member => within x (sublist.subset member)

end Within

def ClosedUnderSimpler (Allowed : Operation → Prop) : Prop :=
  ∀ op, Allowed op → Within Allowed op.simpler

theorem Reduces.within {Allowed : Operation → Prop} (closed : ClosedUnderSimpler Allowed)
    {ops xs : List Operation} (reduces : Reduces ops xs) (within : Within Allowed ops) :
    Within Allowed xs := by
  induction reduces with
  | refl => exact within
  | deletion _ sublist ih => exact ih.of_sublist sublist
  | simplification _ simpler ih =>
      obtain ⟨kept, later⟩ := within_append.mp ih
      obtain ⟨first, later⟩ := within_cons.mp later
      exact within_append.mpr ⟨kept, within_cons.mpr ⟨closed _ first _ simpler, later⟩⟩

section Simplification

variable {Allowed : Operation → Prop} (test : List Operation → Bool)

theorem within_simplifyEach (closed : ClosedUnderSimpler Allowed) {done rest : List Operation}
    (within : Within Allowed (done ++ rest)) :
    Within Allowed (simplifyEach (m := Id) test done rest) :=
  (Reduces.refl.simplifyEach test).within closed within

theorem within_afterRound (closed : ClosedUnderSimpler Allowed) (limit : Int)
    {ops : List Operation} (within : Within Allowed ops) :
    Within Allowed (afterRound test limit ops) :=
  (Reduces.refl.afterRound test limit).within closed within

end Simplification

/-! ## Tests that answer -/

variable {m : Type → Type} [Monad m]

/-- A test that has an answer, and no effect, on lists of allowed elements. -/
def Answers {α : Type} (Allowed : α → Prop) (fails : List α → m Bool) (test : List α → Bool) :
    Prop :=
  ∀ xs, Within Allowed xs → fails xs = pure (test xs)

variable [LawfulMonad m]

theorem findM?_eq_pure {α : Type} {xs : List α} {search : α → m Bool} {found : α → Bool}
    (same : ∀ x ∈ xs, search x = pure (found x)) : xs.findM? search = pure (xs.find? found) := by
  induction xs with
  | nil => rfl
  | cons x rest ih =>
      have later := ih fun y member => same y (List.mem_cons_of_mem x member)
      rw [List.findM?, same x List.mem_cons_self, pure_bind, List.find?_cons]
      cases found x with
      | true => rfl
      | false => exact later

theorem anyM_eq_pure {α : Type} {xs : List α} {search : α → m Bool} {found : α → Bool}
    (same : ∀ x ∈ xs, search x = pure (found x)) : xs.anyM search = pure (xs.any found) := by
  induction xs with
  | nil => rfl
  | cons x rest ih =>
      have later := ih fun y member => same y (List.mem_cons_of_mem x member)
      rw [List.anyM, same x List.mem_cons_self, pure_bind, List.any_cons]
      cases found x with
      | true => rfl
      | false => exact later

section Deletion

variable {α : Type} {Allowed : α → Prop} {fails : List α → m Bool} {test : List α → Bool}

theorem Answers.sweep_pure (answers : Answers Allowed fails test) (size : Nat) {kept rest : List α}
    (within : Within Allowed (kept ++ rest)) :
    sweep fails size kept rest = pure (sweep (m := Id) test size kept rest) := by
  induction kept, rest using sweep.induct size with
  | case1 kept => simp [sweep, sweep_nil]
  | case2 kept x tail deleted passed =>
      have fewer : Within Allowed (kept ++ tail.drop (size - 1)) := by
        refine within.of_sublist (List.Sublist.append_left ?_ kept)
        exact (List.drop_sublist _ _).trans (List.sublist_cons_self x tail)
      rw [sweep, answers _ fewer, pure_bind, sweep_cons]
      cases test (kept ++ tail.drop (size - 1)) with
      | true => exact deleted fewer
      | false => exact passed (by simpa using within)

theorem Answers.deleteFrom_pure (answers : Answers Allowed fails test) (size : Nat) {xs : List α}
    (within : Within Allowed xs) :
    deleteFrom fails size xs = pure (deleteFrom (m := Id) test size xs) := by
  induction size, xs using deleteFrom.induct with
  | case1 size xs empty => rw [deleteFrom, if_pos empty, deleteFrom_eq, if_pos empty]
  | case2 size xs nonempty smaller again =>
      have kept : Within Allowed (sweep (m := Id) test size [] xs) :=
        within.of_sublist (sweep_sublist test size [] xs)
      rw [deleteFrom, if_neg nonempty,
        answers.sweep_pure size (within_append.mpr ⟨within_nil, within⟩), pure_bind, deleteFrom_eq,
        if_neg nonempty]
      dsimp only
      split
      · next chunks => exact smaller _ chunks kept
      · split
        · next shorter => exact again _ shorter kept
        · rfl

theorem Answers.deleteChunks_pure (answers : Answers Allowed fails test) {xs : List α}
    (within : Within Allowed xs) :
    deleteChunks fails xs = pure (deleteChunks (m := Id) test xs) :=
  answers.deleteFrom_pure _ within

theorem Answers.firstOfSizes_pure (answers : Answers Allowed fails test) {xs : List α}
    (within : Within Allowed xs) (sizes : List Nat) :
    firstOfSizes fails xs sizes = pure (firstOfSizes (m := Id) test xs sizes) := by
  induction sizes with
  | nil => rfl
  | cons size sizes ih =>
      have search : (combinations size xs).findM? fails =
          pure ((combinations size xs).find? test) :=
        findM?_eq_pure fun picked member =>
          answers picked (within.of_sublist (mem_combinations.mp member).1)
      rw [firstOfSizes, search, pure_bind, firstOfSizes_cons]
      cases (combinations size xs).find? test with
      | some picked => rfl
      | none => exact ih

end Deletion

section Rounds

variable {Allowed : Operation → Prop} {fails : List Operation → m Bool}
  {test : List Operation → Bool} (limit : Int) {ops : List Operation}

theorem Answers.reduce_pure (answers : Answers Allowed fails test) (within : Within Allowed ops) :
    reduce fails limit ops = pure (reduce (m := Id) test limit ops) := by
  unfold reduce
  split
  · exact answers.deleteChunks_pure within
  · rfl

theorem Answers.minimize_pure (answers : Answers Allowed fails test) (within : Within Allowed ops) :
    minimize fails limit ops = pure (minimize (m := Id) test limit ops) := by
  unfold minimize
  split
  · rfl
  · exact answers.firstOfSizes_pure within _

theorem Answers.simplifyEach_pure (answers : Answers Allowed fails test)
    (closed : ClosedUnderSimpler Allowed) {done rest : List Operation}
    (within : Within Allowed (done ++ rest)) :
    simplifyEach fails done rest = pure (simplifyEach (m := Id) test done rest) := by
  induction done, rest using simplifyEach.induct with
  | case1 done => rfl
  | case2 done op rest simplified passed =>
      obtain ⟨kept, later⟩ := within_append.mp within
      obtain ⟨first, later⟩ := within_cons.mp later
      have replaced : ∀ variant ∈ op.simpler, Within Allowed (done ++ variant :: rest) := by
        intro variant simpler
        exact within_append.mpr ⟨kept, within_cons.mpr ⟨closed op first variant simpler, later⟩⟩
      have search : (op.simpler.findM? fun variant => fails (done ++ variant :: rest)) =
          pure (op.simpler.find? fun variant => test (done ++ variant :: rest)) :=
        findM?_eq_pure fun variant simpler => answers _ (replaced variant simpler)
      rw [simplifyEach, search, pure_bind, simplifyEach_cons]
      cases found : op.simpler.find? fun variant => test (done ++ variant :: rest) with
      | some variant =>
          have within := replaced variant (List.mem_of_find?_eq_some found)
          exact simplified variant (by simpa using within)
      | none => exact passed (by simpa using within)

theorem Answers.simplify_pure (answers : Answers Allowed fails test)
    (closed : ClosedUnderSimpler Allowed) (within : Within Allowed ops) :
    simplify fails ops = pure (simplify (m := Id) test ops) := by
  induction ops using simplify.induct with
  | case1 ops again =>
      have pass : Within Allowed (simplifyEach (m := Id) test [] ops) :=
        within_simplifyEach test closed within
      rw [simplify, answers.simplifyEach_pure closed (within_append.mpr ⟨within_nil, within⟩),
        pure_bind, simplify_eq]
      dsimp only
      split
      · next quieter => exact again _ quieter pass
      · rfl

theorem inRounds_eq (ops : List Operation) :
    inRounds (m := Id) test limit ops =
      let after := afterRound test limit ops
      let round : Round := ⟨ops.length, after.length,
        decide (limit < (reduce (m := Id) test limit ops).length)⟩
      if weight after < weight ops then
        { inRounds (m := Id) test limit after with
          rounds := round :: (inRounds (m := Id) test limit after).rounds }
      else ⟨after, [round]⟩ := by
  rw [inRounds]
  rfl

theorem Answers.inRounds_pure (answers : Answers Allowed fails test)
    (closed : ClosedUnderSimpler Allowed) (within : Within Allowed ops) :
    inRounds fails limit ops = pure (inRounds (m := Id) test limit ops) := by
  induction ops using inRounds.induct with
  | case1 ops again =>
      have reduced : Within Allowed (reduce (m := Id) test limit ops) :=
        within.of_sublist (reduce_sublist test limit ops)
      have minimized : Within Allowed
          (minimize (m := Id) test limit (reduce (m := Id) test limit ops)) :=
        within.of_sublist (pruned_sublist test limit ops)
      have settled := within_afterRound test closed limit within
      rw [inRounds, answers.reduce_pure limit within, pure_bind,
        answers.minimize_pure limit reduced, pure_bind,
        answers.simplify_pure closed minimized, pure_bind, inRounds_eq]
      have after : simplify (m := Id) test (minimize (m := Id) test limit
          (reduce (m := Id) test limit ops)) = afterRound test limit ops := rfl
      rw [after]
      by_cases lighter : weight (afterRound test limit ops) < weight ops
      · simp only [lighter, if_true, dite_true]
        rw [again _ lighter settled, pure_bind]
      · simp only [lighter, if_false, dite_false]

theorem shrink_of_passes {ops : List Operation} (passing : test ops = false) :
    shrink (m := Id) test limit ops = none := by
  change (if test ops = true then _ else _) = _
  rw [passing, if_neg Bool.false_ne_true]
  rfl

/-- Shrinking ends with the same list, or with none, as it does with the plain test. -/
theorem Answers.shrink_pure (answers : Answers Allowed fails test)
    (closed : ClosedUnderSimpler Allowed) (within : Within Allowed ops) :
    shrink fails limit ops = pure (shrink (m := Id) test limit ops) := by
  rw [shrink, answers ops within, pure_bind]
  cases failing : test ops with
  | true =>
      rw [if_pos rfl, answers.inRounds_pure limit closed within, pure_bind,
        shrink_of_fails test limit failing]
  | false => rw [if_neg Bool.false_ne_true, shrink_of_passes limit failing]

theorem Answers.resists_pure (answers : Answers Allowed fails test)
    (closed : ClosedUnderSimpler Allowed) {before rest : List Operation}
    (within : Within Allowed (before ++ rest)) :
    resists fails before rest = pure (resists (m := Id) test before rest) := by
  induction rest generalizing before with
  | nil => rfl
  | cons op rest ih =>
      obtain ⟨kept, later⟩ := within_append.mp within
      obtain ⟨first, later⟩ := within_cons.mp later
      have fewer := answers _ (within_append.mpr ⟨kept, later⟩)
      have variants : failsSimplified fails before op rest =
          pure (op.simpler.any fun variant => test (before ++ variant :: rest)) :=
        anyM_eq_pure fun variant simpler => answers _
          (within_append.mpr ⟨kept, within_cons.mpr ⟨closed op first variant simpler, later⟩⟩)
      rw [resists, fewer, pure_bind, resists_cons]
      cases test (before ++ rest) with
      | true => rfl
      | false =>
          rw [if_neg Bool.false_ne_true, if_neg Bool.false_ne_true, variants, pure_bind]
          cases op.simpler.any fun variant => test (before ++ variant :: rest) with
          | true => rfl
          | false =>
              rw [if_neg Bool.false_ne_true, if_neg Bool.false_ne_true]
              exact ih (by simpa using within)

theorem Answers.isLocallyMinimal_pure (answers : Answers Allowed fails test)
    (closed : ClosedUnderSimpler Allowed) (within : Within Allowed ops) :
    isLocallyMinimal fails ops = pure (isLocallyMinimal (m := Id) test ops) := by
  rw [isLocallyMinimal, answers ops within, pure_bind]
  cases failing : test ops with
  | true =>
      rw [if_pos rfl, answers.resists_pure closed (within_append.mpr ⟨within_nil, within⟩)]
      change _ = pure (if test ops = true then _ else _)
      rw [failing, if_pos rfl]
  | false =>
      change _ = pure (if test ops = true then _ else _)
      rw [failing, if_neg Bool.false_ne_true, if_neg Bool.false_ne_true]
      rfl

/-- A test that answers shrinks a failing list to a failing one that is locally minimal. -/
theorem Answers.exists_shrunk (answers : Answers Allowed fails test)
    (closed : ClosedUnderSimpler Allowed) (within : Within Allowed ops)
    (failing : test ops = true) :
    ∃ shrunk, shrink fails limit ops = pure (some shrunk) ∧ Reduces ops shrunk.operations ∧
      test shrunk.operations = true ∧ ResistsDeletion test shrunk.operations ∧
      ResistsSimplification test shrunk.operations ∧
      isLocallyMinimal fails shrunk.operations = pure true := by
  have fixed := afterRound_settled test limit ops
  have failing' := fails_settled test limit failing
  have reduces : Reduces ops (settled test limit ops) := Reduces.refl.settled test limit
  have deletion := resistsDeletion_of_afterRound_eq test limit fixed
  have simplification :=
    resistsSimplification_of_simplify_eq test (parts_of_afterRound_eq test limit fixed).2.2
  refine ⟨inRounds (m := Id) test limit ops, ?_, reduces, failing', deletion, simplification, ?_⟩
  · rw [answers.shrink_pure limit closed within, shrink_of_fails test limit failing]
  · have minimal := (isLocallyMinimal_iff test _).mpr ⟨failing', deletion, simplification⟩
    rw [← minimal]
    exact answers.isLocallyMinimal_pure closed (reduces.within closed within)

end Rounds

end Shrink

end Gatekeeper
