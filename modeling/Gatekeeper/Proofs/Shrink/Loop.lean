import Gatekeeper.Proofs.Shrink.Descent
import Mathlib.Data.PFun

/-!
# The loops of shrinking end

Shrinking turn by turn.  A sweep moves an index over a list that becomes shorter in front of
it, and stays where it is after a deletion; sweeps are repeated with chunks of half the size;
passes and rounds are repeated as long as they change something.  Nothing in these loops
bounds the number of their turns.  Each of them ends all the same, with the list that
shrinking is defined to leave, since what it accepts is lighter than what it had.  Deletion by
itself ends with a list from which no single element can be deleted.
-/

namespace Gatekeeper

namespace Shrink

section Loop

variable {σ ρ : Type}

def loop (turn : σ → Part (ρ ⊕ σ)) : σ → Part ρ := PFun.fix turn

variable {turn : σ → Part (ρ ⊕ σ)} {s s' : σ}

theorem loop_of_inl {result : ρ} (leaves : turn s = Part.some (.inl result)) :
    loop turn s = Part.some result :=
  Part.eq_some_iff.mpr (PFun.fix_stop (Part.eq_some_iff.mp leaves))

theorem loop_of_inr (stays : turn s = Part.some (.inr s')) : loop turn s = loop turn s' :=
  PFun.fix_fwd_eq (Part.eq_some_iff.mp stays)

end Loop

/-! ## Sweeps -/

section Deletion

variable {α : Type} (fails : List α → Bool)

/-- Where a sweep stands: what is left of the list, the index of the next chunk, and whether
anything was deleted. -/
structure Position (α : Type) where
  left : List α
  index : Nat
  progress : Bool

/-- Try to delete the chunk at the index.  The index stays after a deletion. -/
def sweepTurn (size : Nat) (p : Position α) : Part ((List α × Bool) ⊕ Position α) :=
  if p.index < p.left.length then
    let candidate := p.left.take p.index ++ p.left.drop (p.index + size)
    if fails candidate then Part.some (.inr ⟨candidate, p.index, true⟩)
    else Part.some (.inr { p with index := p.index + size })
  else Part.some (.inl (p.left, p.progress))

def sweeping (size : Nat) : Position α → Part (List α × Bool) := loop (sweepTurn fails size)

theorem sweepTurn_within {size : Nat} (positive : 0 < size) (kept : List α) (x : α)
    (tail : List α) (progress : Bool) :
    sweepTurn fails size ⟨kept ++ x :: tail, kept.length, progress⟩ =
      if fails (kept ++ tail.drop (size - 1)) then
        Part.some (.inr ⟨kept ++ tail.drop (size - 1), kept.length, true⟩)
      else Part.some (.inr ⟨kept ++ x :: tail, kept.length + size, progress⟩) := by
  obtain ⟨size, rfl⟩ := Nat.exists_eq_succ_of_ne_zero (Nat.ne_of_gt positive)
  simp [sweepTurn]

/-- A sweep from an index on.  The last chunk may be cut short, and then the index is beyond the
end of the list. -/
theorem sweeping_eq_some {size : Nat} (positive : 0 < size) (kept rest : List α) (index : Nat)
    (progress : Bool) (place : index = kept.length ∨ rest = [] ∧ kept.length < index) :
    sweeping fails size ⟨kept ++ rest, index, progress⟩ =
      Part.some (sweep (m := Id) fails size kept rest,
        progress || decide ((sweep (m := Id) fails size kept rest).length <
          (kept ++ rest).length)) := by
  induction kept, rest using sweep.induct size generalizing index progress with
  | case1 kept =>
      have beyond : ¬ index < kept.length := by omega
      refine loop_of_inl ?_
      simp [sweepTurn, beyond, sweep_nil]
  | case2 kept x tail deleted passed =>
      obtain rfl : index = kept.length := by simpa using place
      have turn := sweepTurn_within fails positive kept x tail progress
      rw [sweep_cons]
      cases failing : fails (kept ++ tail.drop (size - 1)) with
      | true =>
          have shorter : (sweep (m := Id) fails size kept (tail.drop (size - 1))).length <
              (kept ++ x :: tail).length := by
            have le := (sweep_sublist fails size kept (tail.drop (size - 1))).length_le
            simp only [List.length_append, List.length_drop, List.length_cons] at le ⊢
            omega
          rw [failing, if_pos rfl] at turn
          refine (loop_of_inr turn).trans ((deleted kept.length true (.inl rfl)).trans ?_)
          rw [if_pos rfl, decide_eq_true shorter, Bool.true_or, Bool.or_true]
      | false =>
          have whole : kept ++ x :: tail =
              (kept ++ x :: tail.take (size - 1)) ++ tail.drop (size - 1) := by simp
          rw [failing, if_neg Bool.false_ne_true, whole] at turn
          rw [if_neg Bool.false_ne_true, whole]
          refine (loop_of_inr turn).trans (passed (kept.length + size) progress ?_)
          simp only [List.length_append, List.length_cons, List.length_take, List.drop_eq_nil_iff]
          omega

theorem sweeping_from_start {size : Nat} (positive : 0 < size) (xs : List α) :
    sweeping fails size ⟨xs, 0, false⟩ =
      Part.some (sweep (m := Id) fails size [] xs,
        decide ((sweep (m := Id) fails size [] xs).length < xs.length)) := by
  have swept := sweeping_eq_some fails positive [] xs 0 false (.inl rfl)
  rwa [List.nil_append, Bool.false_or] at swept

/-! ## Deletion -/

/-- Sweep, and go on with smaller chunks, or with single elements if the sweep helped. -/
def deletionTurn (s : Nat × List α) : Part (List α ⊕ Nat × List α) :=
  if s.2.isEmpty then Part.some (.inl s.2)
  else
    (sweeping fails s.1 ⟨s.2, 0, false⟩).map fun swept =>
      if 1 < s.1 then .inr (s.1 / 2, swept.1)
      else if swept.2 then .inr (s.1, swept.1)
      else .inl swept.1

def deleting (xs : List α) : Part (List α) :=
  loop (deletionTurn fails) (max (xs.length / 2) 1, xs)

theorem deletionTurn_eq {size : Nat} (positive : 0 < size) {xs : List α}
    (nonempty : ¬ xs.isEmpty = true) :
    deletionTurn fails (size, xs) =
      let left := sweep (m := Id) fails size [] xs
      Part.some
        (if 1 < size then .inr (size / 2, left)
        else if left.length < xs.length then .inr (size, left)
        else .inl left) := by
  rw [deletionTurn, if_neg nonempty, sweeping_from_start fails positive, Part.map_some]
  simp

theorem loop_deletionTurn {size : Nat} (positive : 0 < size) (xs : List α) :
    loop (deletionTurn fails) (size, xs) = Part.some (deleteFrom (m := Id) fails size xs) := by
  induction size, xs using deleteFrom.induct with
  | case1 size xs empty =>
      rw [deleteFrom_eq, if_pos empty]
      refine loop_of_inl ?_
      rw [deletionTurn, if_pos empty]
  | case2 size xs nonempty smaller again =>
      have turn := deletionTurn_eq fails positive nonempty
      rw [deleteFrom_eq, if_neg nonempty]
      dsimp only at turn ⊢
      split
      · next chunks =>
        rw [if_pos chunks] at turn
        exact (loop_of_inr turn).trans (smaller _ chunks (by omega))
      · next single =>
        rw [if_neg single] at turn
        split
        · next shorter =>
          rw [if_pos shorter] at turn
          exact (loop_of_inr turn).trans (again _ shorter positive)
        · next long =>
          rw [if_neg long] at turn
          exact loop_of_inl turn

theorem deleting_eq_some (xs : List α) :
    deleting fails xs = Part.some (deleteChunks (m := Id) fails xs) :=
  loop_deletionTurn fails (by omega) xs

/-- Deletion ends on every list, failing or not.  It leaves a subsequence from which no single
element can be deleted so that it fails, and which fails itself unless nothing was deleted. -/
theorem deleting_leaves_oneMinimal (xs : List α) :
    ∃ left, deleting fails xs = Part.some left ∧ deleteChunks (m := Id) fails xs = left ∧
      left.Sublist xs ∧
      (∀ i < left.length, fails (left.take i ++ left.drop (i + 1)) = false) ∧
      (left ≠ xs → fails left = true) :=
  ⟨_, deleting_eq_some fails xs, rfl, deleteChunks_sublist fails xs,
    (resistsDeletion_iff fails).mp (deleteChunks_resistsDeletion fails xs),
    (deleteChunks_eq_or_fails fails xs).resolve_left⟩

end Deletion

/-! ## Simplification -/

variable (fails : List Operation → Bool)

def simplifyAt (s : List Operation × Bool) (index : Nat) : List Operation × Bool :=
  match s.1[index]?.bind fun op =>
      op.simpler.find? fun variant => fails (s.1.set index variant) with
  | some variant => (s.1.set index variant, true)
  | none => s

def pass (ops : List Operation) : List Operation × Bool :=
  (List.range ops.length).foldl (simplifyAt fails) (ops, false)

def simplificationTurn (ops : List Operation) : Part (List Operation ⊕ List Operation) :=
  Part.some (if (pass fails ops).2 then .inr (pass fails ops).1 else .inl (pass fails ops).1)

def simplifying : List Operation → Part (List Operation) := loop (simplificationTurn fails)

theorem simplifyAt_length (done : List Operation) (op : Operation) (rest : List Operation)
    (changed : Bool) :
    simplifyAt fails (done ++ op :: rest, changed) done.length =
      match op.simpler.find? fun variant => fails (done ++ variant :: rest) with
      | some variant => (done ++ variant :: rest, true)
      | none => (done ++ op :: rest, changed) := by
  simp [simplifyAt]

theorem foldl_simplifyAt (done rest : List Operation) (changed : Bool) :
    (List.range' done.length rest.length).foldl (simplifyAt fails) (done ++ rest, changed) =
      (simplifyEach (m := Id) fails done rest,
        changed || decide (noise (simplifyEach (m := Id) fails done rest) <
          noise (done ++ rest))) := by
  induction rest generalizing done changed with
  | nil => simp [simplifyEach_nil]
  | cons op rest ih =>
      rw [List.length_cons, List.range'_succ, List.foldl_cons, simplifyAt_length, simplifyEach_cons]
      cases found : op.simpler.find? fun variant => fails (done ++ variant :: rest) with
      | some variant =>
          have quieter : noise (simplifyEach (m := Id) fails (done ++ [variant]) rest) <
              noise (done ++ op :: rest) := by
            have first := noise_lt_of_simpler (List.mem_of_find?_eq_some found) done rest
            have later := noise_simplifyEach_le fails (done ++ [variant]) rest
            rw [List.append_assoc, List.singleton_append] at later
            omega
          have later := ih (done ++ [variant]) true
          rw [decide_eq_true quieter, Bool.or_true]
          simpa using later
      | none =>
          have later := ih (done ++ [op]) changed
          simpa using later

theorem pass_eq (ops : List Operation) :
    pass fails ops = (simplifyEach (m := Id) fails [] ops,
      decide (noise (simplifyEach (m := Id) fails [] ops) < noise ops)) := by
  have folded := foldl_simplifyAt fails [] ops false
  rw [List.nil_append, Bool.false_or] at folded
  rw [pass, List.range_eq_range']
  exact folded

theorem simplifying_eq_some (ops : List Operation) :
    simplifying fails ops = Part.some (simplify (m := Id) fails ops) := by
  induction ops using simplify.induct with
  | case1 ops again =>
      have turn : simplificationTurn fails ops = Part.some _ := rfl
      rw [pass_eq] at turn
      rw [simplify_eq]
      dsimp only at turn ⊢
      split
      · next quieter =>
        rw [if_pos (decide_eq_true quieter)] at turn
        exact (loop_of_inr turn).trans (again _ quieter)
      · next noisy =>
        rw [if_neg (by simpa using noisy)] at turn
        exact loop_of_inl turn

/-! ## Rounds -/

section Rounds

variable (limit : Int)

def shrinkingTurn (ops : List Operation) : Part (List Operation ⊕ List Operation) :=
  (if limit < ops.length then deleting fails ops else Part.some ops).bind fun reduced =>
    (simplifying fails
      (if reduced.length ≤ limit then smallestSubsequence (m := Id) fails reduced
      else reduced)).map fun after =>
        if after = ops then .inl after else .inr after

def shrinking (ops : List Operation) : Part (Option (List Operation)) :=
  if fails ops then (loop (shrinkingTurn fails limit) ops).map some else Part.some none

theorem shrinkingTurn_eq (ops : List Operation) :
    shrinkingTurn fails limit ops =
      Part.some (if afterRound fails limit ops = ops then .inl (afterRound fails limit ops)
        else .inr (afterRound fails limit ops)) := by
  have reduced : (if limit < ops.length then deleting fails ops else Part.some ops) =
      Part.some (reduce (m := Id) fails limit ops) := by
    rw [deleting_eq_some, reduce]
    split
    · rfl
    · rfl
  have minimized (xs : List Operation) :
      (if xs.length ≤ limit then smallestSubsequence (m := Id) fails xs else xs) =
        minimize (m := Id) fails limit xs := by
    rw [minimize]
    split
    · next short => rw [if_neg (Int.not_lt.mpr short)]
    · next long => exact (if_pos (Int.not_le.mp long)).symm
  rw [shrinkingTurn, reduced, Part.bind_some, minimized, simplifying_eq_some, Part.map_some]
  rfl

theorem loop_shrinkingTurn (ops : List Operation) :
    loop (shrinkingTurn fails limit) ops = Part.some (settled fails limit ops) := by
  induction ops using inRounds.induct with
  | case1 ops again =>
      have turn := shrinkingTurn_eq fails limit ops
      rw [settled_eq]
      split
      · next lighter =>
        have other : afterRound fails limit ops ≠ ops := by
          intro same
          rw [same] at lighter
          exact Nat.lt_irrefl _ lighter
        rw [if_neg other] at turn
        exact (loop_of_inr turn).trans (again _ lighter)
      · next heavy =>
        rw [if_pos ((afterRound_eq_or_lighter fails limit ops).resolve_right heavy)] at turn
        exact loop_of_inl turn

theorem shrinking_eq_some (ops : List Operation) :
    shrinking fails limit ops =
      Part.some ((shrink (m := Id) fails limit ops).map Shrunk.operations) := by
  rw [shrinking, loop_shrinkingTurn]
  cases failing : fails ops with
  | true =>
      rw [shrink_of_fails fails limit failing]
      rfl
  | false =>
      rw [shrink_of_passes limit failing]
      rfl

/-- Shrinking ends, and so does each of its loops, for every test.  Every list that is accepted on
the way is the one before it or lighter than that; a round that accepts no other list leaves the
list as it is and is the last one; and there are no more rounds than the list has weight to lose. -/
theorem shrink_ends (ops : List Operation) :
    (∀ (size : Nat) (xs : List Operation), sweeping fails (size + 1) ⟨xs, 0, false⟩ =
      Part.some (sweep (m := Id) fails (size + 1) [] xs,
        decide ((sweep (m := Id) fails (size + 1) [] xs).length < xs.length))) ∧
    (∀ xs : List Operation, deleting fails xs = Part.some (deleteChunks (m := Id) fails xs)) ∧
    (∀ xs, simplifying fails xs = Part.some (simplify (m := Id) fails xs)) ∧
    shrinking fails limit ops =
      Part.some ((shrink (m := Id) fails limit ops).map Shrunk.operations) ∧
    (∃ tried, (shrink (recorded fails) limit ops).run [] =
        (shrink (m := Id) fails limit ops, tried) ∧
      Descent ops (tried.filter fails)
        (((shrink (m := Id) fails limit ops).map Shrunk.operations).getD ops)) ∧
    (∀ xs, ∃ tried, (round limit (recorded fails) xs).run [] =
        (afterRound fails limit xs, tried) ∧
      (shrinkingTurn fails limit xs = Part.some (.inl xs) ∧ afterRound fails limit xs = xs ∨
        ∃ ys ∈ tried, fails ys = true ∧ ys ≠ xs)) ∧
    (Shrunk.rounds (inRounds (m := Id) fails limit ops)).length ≤ weight ops + 1 := by
  refine ⟨fun size xs => sweeping_from_start fails size.succ_pos xs, deleting_eq_some fails,
    simplifying_eq_some fails, shrinking_eq_some fails limit ops,
    leads_shrink fails limit ops [], fun xs => ?_, length_rounds_le fails limit ops⟩
  obtain ⟨tried, ran, same | accepts⟩ := round_eq_or_accepts fails limit xs
  · have turn := shrinkingTurn_eq fails limit xs
    rw [if_pos same, same] at turn
    exact ⟨tried, ran, .inl ⟨turn, same⟩⟩
  · exact ⟨tried, ran, .inr accepts⟩

end Rounds

end Shrink

end Gatekeeper
