import Gatekeeper.Proofs.Shrink.Fixpoint

/-!
# What shrinking can reach

Shrinking only ever deletes operations and replaces them by simpler ones, so what it
makes of a list is a reduction of the list, and so is every list that it tries on the
way.
-/

namespace Gatekeeper

namespace Shrink

inductive Reduces (ops : List Operation) : List Operation → Prop where
  | refl : Reduces ops ops
  | deletion {xs ys : List Operation} (earlier : Reduces ops xs) (sublist : ys.Sublist xs) :
      Reduces ops ys
  | simplification {before after : List Operation} {op variant : Operation}
      (earlier : Reduces ops (before ++ op :: after)) (simpler : variant ∈ op.simpler) :
      Reduces ops (before ++ variant :: after)

namespace Reduces

variable {ops xs : List Operation} (test : List Operation → Bool)

theorem length_le (reduces : Reduces ops xs) : xs.length ≤ ops.length := by
  induction reduces with
  | refl => exact Nat.le_refl _
  | deletion _ sublist ih => exact Nat.le_trans sublist.length_le ih
  | simplification _ _ ih => simpa using ih

theorem simplifyEach {done rest : List Operation} (reduces : Reduces ops (done ++ rest)) :
    Reduces ops (simplifyEach (m := Id) test done rest) := by
  induction done, rest using Shrink.simplifyEach.induct with
  | case1 done => simpa [simplifyEach_nil] using reduces
  | case2 done op rest simplified passed =>
      rw [simplifyEach_cons]
      split
      · next variant found =>
        have replaced := reduces.simplification (List.mem_of_find?_eq_some found)
        exact simplified variant (by simpa using replaced)
      · exact passed (by simpa using reduces)

theorem simplify (reduces : Reduces ops xs) : Reduces ops (simplify (m := Id) test xs) := by
  induction xs using Shrink.simplify.induct with
  | case1 xs again =>
      have pass : Reduces ops (Shrink.simplifyEach (m := Id) test [] xs) :=
        simplifyEach test (by exact reduces)
      rw [simplify_eq]
      dsimp only
      split
      · next quieter => exact again _ quieter pass
      · exact pass

theorem afterRound (limit : Int) (reduces : Reduces ops xs) :
    Reduces ops (afterRound test limit xs) :=
  simplify test (reduces.deletion (pruned_sublist test limit xs))

theorem settled (limit : Int) (reduces : Reduces ops xs) : Reduces ops (settled test limit xs) :=
  settled_induction test limit (motive := Reduces ops)
    (fun _ => afterRound test limit) xs reduces

end Reduces

end Shrink

end Gatekeeper
