import Gatekeeper.Proofs.Shrink.Answered

/-!
# What shrinking accepts

The lists on which shrinking makes its test are recorded, and those of them that fail are
accepted one after the other.  Each is the same as the one before or lighter than it, and
the last of them is the list that shrinking goes on with.
-/

namespace Gatekeeper

namespace Shrink

variable (fails : List Operation → Bool)

/-! ## Lighter lists -/

/-- Shorter without more noise, or as long with less noise. -/
def Lighter (candidate current : List Operation) : Prop :=
  candidate.length < current.length ∧ noise candidate ≤ noise current ∨
    candidate.length = current.length ∧ noise candidate < noise current

theorem eq_or_lighter_of_sublist {xs ys : List Operation} (sublist : ys.Sublist xs) :
    ys = xs ∨ Lighter ys xs := by
  rcases Nat.lt_or_ge ys.length xs.length with shorter | long
  · exact .inr (.inl ⟨shorter, noise_le_of_sublist sublist⟩)
  · exact .inl (sublist.eq_of_length_le long)

theorem lighter_of_simpler {op variant : Operation} (simpler : variant ∈ op.simpler)
    (before after : List Operation) :
    Lighter (before ++ variant :: after) (before ++ op :: after) :=
  .inr ⟨by simp, noise_lt_of_simpler simpler before after⟩

/-! ## Accepted lists -/

inductive Descent : (start : List Operation) → (accepted : List (List Operation)) →
    (final : List Operation) → Prop where
  | stay (xs : List Operation) : Descent xs [] xs
  | accept {xs ys zs : List Operation} {later : List (List Operation)}
      (step : ys = xs ∨ Lighter ys xs) (rest : Descent ys later zs) : Descent xs (ys :: later) zs

namespace Descent

variable {xs ys zs : List Operation} {accepted later : List (List Operation)}

theorem append (first : Descent xs accepted ys) (rest : Descent ys later zs) :
    Descent xs (accepted ++ later) zs := by
  induction first with
  | stay xs => exact rest
  | accept step _ ih => exact .accept step (ih rest)

/-- Where nothing else is accepted, the list stays what it is. -/
theorem eq_of_forall_eq (descent : Descent xs accepted ys) (same : ∀ zs ∈ accepted, zs = xs) :
    ys = xs := by
  induction descent with
  | stay xs => rfl
  | accept step _ ih =>
      obtain ⟨rfl, same⟩ := List.forall_mem_cons.mp same
      exact ih same

end Descent

/-! ## Recorded tests -/

def recorded (xs : List Operation) : StateM (List (List Operation)) Bool :=
  modifyGet fun tried => (fails xs, tried ++ [xs])

/-- A part of shrinking that starts from one list and has arrived at another: what it accepts on
the way descends from the first to the second. -/
def Leads {ρ : Type} (before : List Operation) (part : StateM (List (List Operation)) ρ)
    (result : ρ) (after : List Operation) : Prop :=
  ∀ earlier, ∃ tried, part.run earlier = (result, earlier ++ tried) ∧
    Descent before (tried.filter fails) after

section Calculus

variable {fails} {ρ τ : Type} {before middle after : List Operation}

theorem leads_pure (result : ρ) : Leads fails before (pure result) result before :=
  fun earlier => ⟨[], by rw [List.append_nil]; rfl, .stay before⟩

theorem Leads.bind {part : StateM (List (List Operation)) ρ} {result : ρ}
    {next : ρ → StateM (List (List Operation)) τ} {result' : τ}
    (first : Leads fails before part result middle)
    (rest : Leads fails middle (next result) result' after) :
    Leads fails before (part >>= next) result' after := by
  intro earlier
  obtain ⟨tried, ran, descent⟩ := first earlier
  obtain ⟨tried', ran', descent'⟩ := rest (earlier ++ tried)
  refine ⟨tried ++ tried', ?_, ?_⟩
  · rw [StateT.run_bind, ran, ← List.append_assoc]
    exact ran'
  · rw [List.filter_append]
    exact descent.append descent'

theorem leads_accepted {xs : List Operation} (failing : fails xs = true)
    (step : xs = before ∨ Lighter xs before) : Leads fails before (recorded fails xs) true xs := by
  intro earlier
  refine ⟨[xs], ?_, ?_⟩
  · rw [← failing]
    rfl
  · rw [List.filter_cons_of_pos failing]
    exact .accept step (.stay xs)

theorem leads_rejected {xs : List Operation} (passing : fails xs = false) :
    Leads fails before (recorded fails xs) false before := by
  intro earlier
  refine ⟨[xs], ?_, ?_⟩
  · rw [← passing]
    rfl
  · rw [List.filter_cons_of_neg (by simp [passing])]
    exact .stay before

/-- The search for the first list that is accepted. -/
theorem leads_findM? {α : Type} (view : α → List Operation) (xs : List α)
    (steps : ∀ x ∈ xs, view x = before ∨ Lighter (view x) before) :
    Leads fails before (xs.findM? fun x => recorded fails (view x))
      (xs.find? fun x => fails (view x))
      (((xs.find? fun x => fails (view x)).map view).getD before) := by
  induction xs with
  | nil => exact leads_pure none
  | cons x rest ih =>
      obtain ⟨step, steps⟩ := List.forall_mem_cons.mp steps
      rw [List.findM?]
      cases failing : fails (view x) with
      | true =>
          rw [List.find?_cons_of_pos (by simpa using failing)]
          exact (leads_accepted failing step).bind (leads_pure _)
      | false =>
          rw [List.find?_cons_of_neg (by simpa using failing)]
          exact (leads_rejected failing).bind (ih steps)

end Calculus

/-! ## Parts of a round -/

theorem leads_sweep (size : Nat) (kept rest : List Operation) :
    Leads fails (kept ++ rest) (sweep (recorded fails) size kept rest)
      (sweep (m := Id) fails size kept rest) (sweep (m := Id) fails size kept rest) := by
  induction kept, rest using sweep.induct size with
  | case1 kept =>
      rw [sweep, sweep_nil, List.append_nil]
      exact leads_pure kept
  | case2 kept x tail deleted passed =>
      have fewer : (kept ++ tail.drop (size - 1)).Sublist (kept ++ x :: tail) :=
        ((List.drop_sublist _ _).trans (List.sublist_cons_self x tail)).append_left kept
      rw [sweep, sweep_cons]
      cases failing : fails (kept ++ tail.drop (size - 1)) with
      | true => exact (leads_accepted failing (eq_or_lighter_of_sublist fewer)).bind deleted
      | false =>
          refine (leads_rejected failing).bind ?_
          simpa using passed

theorem leads_deleteFrom (size : Nat) (xs : List Operation) :
    Leads fails xs (deleteFrom (recorded fails) size xs) (deleteFrom (m := Id) fails size xs)
      (deleteFrom (m := Id) fails size xs) := by
  induction size, xs using deleteFrom.induct with
  | case1 size xs empty =>
      rw [deleteFrom, if_pos empty, deleteFrom_eq, if_pos empty]
      exact leads_pure xs
  | case2 size xs nonempty smaller again =>
      rw [deleteFrom, if_neg nonempty, deleteFrom_eq, if_neg nonempty]
      refine (leads_sweep fails size [] xs).bind ?_
      dsimp only
      split
      · next chunks => exact smaller _ chunks
      · split
        · next shorter => exact again _ shorter
        · exact leads_pure _

theorem leads_firstOfSizes (xs : List Operation) (sizes : List Nat) :
    Leads fails xs (firstOfSizes (recorded fails) xs sizes)
      (firstOfSizes (m := Id) fails xs sizes) (firstOfSizes (m := Id) fails xs sizes) := by
  induction sizes with
  | nil => exact leads_pure xs
  | cons size sizes ih =>
      have sublists : ∀ picked ∈ combinations size xs, picked = xs ∨ Lighter picked xs :=
        fun picked member => eq_or_lighter_of_sublist (mem_combinations.mp member).1
      have search : Leads fails xs ((combinations size xs).findM? (recorded fails))
          ((combinations size xs).find? fails) _ :=
        leads_findM? (fun picked => picked) (combinations size xs) sublists
      rw [firstOfSizes, firstOfSizes_cons]
      refine search.bind ?_
      cases (combinations size xs).find? fails with
      | some picked => exact leads_pure picked
      | none => exact ih

theorem leads_simplifyEach (done rest : List Operation) :
    Leads fails (done ++ rest) (simplifyEach (recorded fails) done rest)
      (simplifyEach (m := Id) fails done rest) (simplifyEach (m := Id) fails done rest) := by
  induction done, rest using simplifyEach.induct with
  | case1 done =>
      rw [List.append_nil]
      exact leads_pure done
  | case2 done op rest simplified passed =>
      have variants : ∀ variant ∈ op.simpler, done ++ variant :: rest = done ++ op :: rest ∨
          Lighter (done ++ variant :: rest) (done ++ op :: rest) :=
        fun variant simpler => .inr (lighter_of_simpler simpler done rest)
      have search : Leads fails (done ++ op :: rest) _ _ _ :=
        leads_findM? (fun variant => done ++ variant :: rest) op.simpler variants
      rw [simplifyEach, simplifyEach_cons]
      refine search.bind ?_
      cases op.simpler.find? fun variant => fails (done ++ variant :: rest) with
      | some variant => simpa using simplified variant
      | none => simpa using passed

theorem leads_simplify (ops : List Operation) :
    Leads fails ops (simplify (recorded fails) ops) (simplify (m := Id) fails ops)
      (simplify (m := Id) fails ops) := by
  induction ops using simplify.induct with
  | case1 ops again =>
      rw [simplify, simplify_eq]
      refine (leads_simplifyEach fails [] ops).bind ?_
      dsimp only
      split
      · next quieter => exact again _ quieter
      · exact leads_pure _

/-! ## Rounds -/

section Rounds

variable (limit : Int)

theorem leads_reduce (ops : List Operation) :
    Leads fails ops (reduce (recorded fails) limit ops) (reduce (m := Id) fails limit ops)
      (reduce (m := Id) fails limit ops) := by
  unfold reduce
  split
  · exact leads_deleteFrom fails _ ops
  · exact leads_pure ops

theorem leads_minimize (ops : List Operation) :
    Leads fails ops (minimize (recorded fails) limit ops) (minimize (m := Id) fails limit ops)
      (minimize (m := Id) fails limit ops) := by
  unfold minimize
  split
  · exact leads_pure ops
  · exact leads_firstOfSizes fails ops _

def round {m : Type → Type} [Monad m] (test : List Operation → m Bool) (ops : List Operation) :
    m (List Operation) := do
  let reduced ← reduce test limit ops
  let least ← minimize test limit reduced
  simplify test least

theorem leads_round (ops : List Operation) :
    Leads fails ops (round limit (recorded fails) ops) (afterRound fails limit ops)
      (afterRound fails limit ops) :=
  (leads_reduce fails limit ops).bind
    ((leads_minimize fails limit _).bind (leads_simplify fails _))

/-- A round that leaves a list other than it was has accepted a lighter one. -/
theorem round_eq_or_accepts (ops : List Operation) :
    ∃ tried, (round limit (recorded fails) ops).run [] = (afterRound fails limit ops, tried) ∧
      (afterRound fails limit ops = ops ∨ ∃ xs ∈ tried, fails xs = true ∧ xs ≠ ops) := by
  obtain ⟨tried, ran, descent⟩ := leads_round fails limit ops []
  refine ⟨tried, ran, ?_⟩
  by_cases same : ∀ xs ∈ tried.filter fails, xs = ops
  · exact .inl (descent.eq_of_forall_eq same)
  · obtain ⟨xs, differs⟩ := Classical.not_forall.mp same
    obtain ⟨accepted, other⟩ := Classical.not_imp.mp differs
    obtain ⟨member, failing⟩ := List.mem_filter.mp accepted
    exact .inr ⟨xs, member, failing, other⟩

theorem leads_inRounds (ops : List Operation) :
    Leads fails ops (inRounds (recorded fails) limit ops) (inRounds (m := Id) fails limit ops)
      (settled fails limit ops) := by
  induction ops using inRounds.induct with
  | case1 ops again =>
      rw [inRounds, inRounds_eq, settled_eq]
      refine (leads_reduce fails limit ops).bind ((leads_minimize fails limit _).bind
        ((leads_simplify fails _).bind ?_))
      have after : simplify (m := Id) fails (minimize (m := Id) fails limit
          (reduce (m := Id) fails limit ops)) = afterRound fails limit ops := rfl
      rw [after]
      by_cases lighter : weight (afterRound fails limit ops) < weight ops
      · simp only [lighter, if_true, dite_true]
        exact (again _ lighter).bind (leads_pure _)
      · simp only [lighter, if_false, dite_false]
        exact leads_pure _

theorem length_rounds_le (ops : List Operation) :
    (Shrunk.rounds (inRounds (m := Id) fails limit ops)).length ≤ weight ops + 1 := by
  induction ops using inRounds.induct with
  | case1 ops again =>
      rw [inRounds_eq]
      dsimp only
      split
      · next lighter =>
        have later := again _ lighter
        rw [List.length_cons]
        omega
      · exact Nat.le_add_left 1 _

/-- What is accepted while a list is shrunk descends from it to what is left of it. -/
theorem leads_shrink (ops : List Operation) :
    Leads fails ops (shrink (recorded fails) limit ops) (shrink (m := Id) fails limit ops)
      (((shrink (m := Id) fails limit ops).map Shrunk.operations).getD ops) := by
  rw [shrink]
  cases failing : fails ops with
  | true =>
      rw [shrink_of_fails fails limit failing]
      exact (leads_accepted failing (.inl rfl)).bind
        ((leads_inRounds fails limit ops).bind (leads_pure _))
  | false =>
      rw [shrink_of_passes limit failing]
      exact (leads_rejected failing).bind (leads_pure _)

end Rounds

end Shrink

end Gatekeeper
