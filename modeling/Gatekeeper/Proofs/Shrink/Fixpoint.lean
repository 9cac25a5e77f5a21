import Gatekeeper.Proofs.Shrink.Deletion
import Gatekeeper.Proofs.Shrink.Simplification
import Gatekeeper.Proofs.Shrink.Subsequence
import Gatekeeper.Shrink.Basic

/-!
# Rounds of shrinking end at a fixpoint

A round either leaves a list as it is or makes it lighter and ends with a failing
list, so the rounds end with a list that one more round would not change.  Such a
list has passed through each of the three parts of a round unchanged.
-/

namespace Gatekeeper

namespace Shrink

variable (fails : List Operation → Bool) (limit : Int)

/-! ## The parts of a round -/

theorem reduce_sublist (ops : List Operation) :
    (reduce (m := Id) fails limit ops).Sublist ops := by
  unfold reduce
  split
  · exact deleteChunks_sublist fails ops
  · exact List.Sublist.refl ops

theorem reduce_eq_or_fails (ops : List Operation) :
    reduce (m := Id) fails limit ops = ops ∨
      fails (reduce (m := Id) fails limit ops) = true := by
  unfold reduce
  split
  · exact deleteChunks_eq_or_fails fails ops
  · exact .inl rfl

theorem minimize_sublist (ops : List Operation) :
    (minimize (m := Id) fails limit ops).Sublist ops := by
  unfold minimize
  split
  · exact List.Sublist.refl ops
  · exact smallestSubsequence_sublist fails ops

theorem minimize_eq_or_fails (ops : List Operation) :
    minimize (m := Id) fails limit ops = ops ∨
      fails (minimize (m := Id) fails limit ops) = true := by
  unfold minimize
  split
  · exact .inl rfl
  · exact smallestSubsequence_eq_or_fails fails ops

theorem noise_le_of_sublist {xs ys : List Operation} (sublist : xs.Sublist ys) :
    noise xs ≤ noise ys := by
  induction sublist with
  | slnil => exact Nat.le_refl _
  | cons op _ ih =>
      rw [noise_cons]
      omega
  | cons_cons op _ ih =>
      rw [noise_cons, noise_cons]
      omega

def pruned (ops : List Operation) : List Operation :=
  minimize (m := Id) fails limit (reduce (m := Id) fails limit ops)

theorem pruned_sublist (ops : List Operation) : (pruned fails limit ops).Sublist ops :=
  (minimize_sublist fails limit _).trans (reduce_sublist fails limit ops)

theorem pruned_eq_or_fails (ops : List Operation) :
    pruned fails limit ops = ops ∨ fails (pruned fails limit ops) = true := by
  rcases minimize_eq_or_fails fails limit (reduce (m := Id) fails limit ops) with same | failing
  · rw [pruned, same]
    exact reduce_eq_or_fails fails limit ops
  · exact .inr failing

/-! ## One round -/

def afterRound (ops : List Operation) : List Operation :=
  simplify (m := Id) fails (pruned fails limit ops)

theorem length_afterRound (ops : List Operation) :
    (afterRound fails limit ops).length = (pruned fails limit ops).length :=
  length_simplify fails (pruned fails limit ops)

theorem length_afterRound_le (ops : List Operation) :
    (afterRound fails limit ops).length ≤ ops.length := by
  rw [length_afterRound]
  exact (pruned_sublist fails limit ops).length_le

theorem fails_afterRound {ops : List Operation} (failing : fails ops = true) :
    fails (afterRound fails limit ops) = true := by
  have kept : fails (pruned fails limit ops) = true := by
    rcases pruned_eq_or_fails fails limit ops with same | failing'
    · rw [same]
      exact failing
    · exact failing'
  rcases simplify_cases fails (pruned fails limit ops) with same | ⟨failing', _⟩
  · rw [afterRound, same]
    exact kept
  · exact failing'

/-- A round changes nothing or takes weight off. -/
theorem afterRound_eq_or_lighter (ops : List Operation) :
    afterRound fails limit ops = ops ∨
      weight (afterRound fails limit ops) < weight ops := by
  have sublist := pruned_sublist fails limit ops
  have quieter := noise_le_of_sublist sublist
  have sameLength := length_afterRound fails limit ops
  rcases Nat.lt_or_ge (pruned fails limit ops).length ops.length with shorter | long
  · refine .inr ?_
    rcases simplify_cases fails (pruned fails limit ops) with same | ⟨_, less⟩
    · rw [afterRound, same]
      simp only [weight]
      omega
    · rw [← afterRound] at less
      simp only [weight]
      omega
  · have unpruned := sublist.eq_of_length_le long
    rcases simplify_cases fails (pruned fails limit ops) with same | ⟨_, less⟩
    · exact .inl (same.trans unpruned)
    · rw [← afterRound, unpruned] at less
      rw [unpruned] at sameLength
      refine .inr ?_
      simp only [weight]
      omega

/-- What a round leaves as it is, each of its parts leaves as it is. -/
theorem parts_of_afterRound_eq {ops : List Operation}
    (unchanged : afterRound fails limit ops = ops) :
    reduce (m := Id) fails limit ops = ops ∧ minimize (m := Id) fails limit ops = ops ∧
      simplify (m := Id) fails ops = ops := by
  have total : ops.length = (pruned fails limit ops).length := by
    rw [← length_afterRound, unchanged]
  have least := minimize_sublist fails limit (reduce (m := Id) fails limit ops)
  have reduced : reduce (m := Id) fails limit ops = ops :=
    (reduce_sublist fails limit ops).eq_of_length_le (total ▸ least.length_le)
  have minimized : minimize (m := Id) fails limit ops = ops := by
    have sublist := pruned_sublist fails limit ops
    have same := sublist.eq_of_length_le (Nat.le_of_eq total)
    rw [pruned, reduced] at same
    exact same
  refine ⟨reduced, minimized, ?_⟩
  rw [afterRound, pruned, reduced, minimized] at unchanged
  exact unchanged

/-! ## All rounds -/

def settled (ops : List Operation) : List Operation :=
  Shrunk.operations (inRounds (m := Id) fails limit ops)

theorem settled_eq (ops : List Operation) :
    settled fails limit ops =
      if weight (afterRound fails limit ops) < weight ops then
        settled fails limit (afterRound fails limit ops)
      else afterRound fails limit ops := by
  rw [settled, inRounds]
  change Shrunk.operations
    (if _ : weight (afterRound fails limit ops) < weight ops then _ else _) = _
  split
  · rfl
  · rfl

/-- What every round keeps, all of them together keep. -/
theorem settled_induction {motive : List Operation → Prop}
    (round : ∀ ops, motive ops → motive (afterRound fails limit ops))
    (ops : List Operation) (start : motive ops) : motive (settled fails limit ops) := by
  induction ops using inRounds.induct with
  | case1 ops again =>
      rw [settled_eq]
      split
      · next lighter => exact again _ lighter (round ops start)
      · exact round ops start

theorem fails_settled {ops : List Operation} (failing : fails ops = true) :
    fails (settled fails limit ops) = true :=
  settled_induction fails limit (motive := fun ops => fails ops = true)
    (fun _ => fails_afterRound fails limit) ops failing

theorem length_settled_le (ops : List Operation) :
    (settled fails limit ops).length ≤ ops.length :=
  settled_induction fails limit (motive := fun left => left.length ≤ ops.length)
    (fun left short => Nat.le_trans (length_afterRound_le fails limit left) short) ops
    (Nat.le_refl _)

theorem length_settled_le_afterRound (ops : List Operation) :
    (settled fails limit ops).length ≤ (afterRound fails limit ops).length := by
  rw [settled_eq]
  split
  · exact length_settled_le fails limit _
  · exact Nat.le_refl _

/-- One more round would not change what the rounds end with. -/
theorem afterRound_settled (ops : List Operation) :
    afterRound fails limit (settled fails limit ops) = settled fails limit ops := by
  induction ops using inRounds.induct with
  | case1 ops again =>
      rw [settled_eq]
      split
      · next lighter => exact again _ lighter
      · next heavy =>
        have unchanged := (afterRound_eq_or_lighter fails limit ops).resolve_right heavy
        rw [unchanged, unchanged]

/-- A list that a round does not change is what the rounds end with. -/
theorem settled_of_afterRound_eq {ops : List Operation}
    (unchanged : afterRound fails limit ops = ops) : settled fails limit ops = ops := by
  rw [settled_eq, unchanged, if_neg (Nat.lt_irrefl _)]

theorem shrink_of_fails {ops : List Operation} (failing : fails ops = true) :
    shrink (m := Id) fails limit ops = some (inRounds (m := Id) fails limit ops) := by
  change (if fails ops = true then _ else _) = _
  rw [if_pos failing]
  rfl

end Shrink

end Gatekeeper
