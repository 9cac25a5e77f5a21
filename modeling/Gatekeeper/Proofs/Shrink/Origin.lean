import Gatekeeper.Proofs.Shrink.Answered
import Gatekeeper.Proofs.Simulation.Operation
import Mathlib.Data.List.Forall2
import Mathlib.Data.List.NodupEquivFin

/-!
# Where shrunk operations come from

Every operation of a shrunk list comes from one of the list that was shrunk, in the same
order, and differs from it at most in fields that were made simplest.  Deletions and
simplifications each leave such a list, and the relation between the two lists is
transitive, so any number of them does.
-/

namespace Gatekeeper

namespace Shrink

open Operation (Simplifies)

theorem simplifies_replaced {op variant : Operation} (simpler : variant.Simplifies op)
    (before after : List Operation) :
    List.SublistForall₂ Simplifies (before ++ variant :: after) (before ++ op :: after) := by
  have pairwise : List.Forall₂ Simplifies (before ++ variant :: after) (before ++ op :: after) :=
    List.rel_append (List.forall₂_refl before) (.cons simpler (List.forall₂_refl after))
  exact List.sublistForall₂_iff.mpr ⟨_, pairwise, List.Sublist.refl _⟩

theorem Reduces.simplifies {ops xs : List Operation} (reduces : Reduces ops xs) :
    List.SublistForall₂ Simplifies xs ops := by
  induction reduces with
  | refl => exact Std.Refl.refl ops
  | @deletion xs ys _ sublist ih =>
      have kept : List.SublistForall₂ Simplifies ys xs := sublist.sublistForall₂
      exact IsTrans.trans ys xs ops kept ih
  | @simplification before after op variant _ simpler ih =>
      have replaced := simplifies_replaced (Simplifies.of_mem_simpler simpler) before after
      exact IsTrans.trans _ _ _ replaced ih

/-- Lists that are related along a subsequence are related along an increasing choice of places. -/
theorem exists_places {α : Type} {R : α → α → Prop} {xs ops : List α}
    (related : List.SublistForall₂ R xs ops) :
    ∃ place : Fin xs.length ↪o Fin ops.length, ∀ i, R (xs.get i) (ops.get (place i)) := by
  obtain ⟨origins, pairwise, sublist⟩ := List.sublistForall₂_iff.mp related
  obtain ⟨place, same⟩ := List.sublist_iff_exists_fin_orderEmbedding_get_eq.mp sublist
  have length := pairwise.length_eq
  refine ⟨(Fin.castOrderIso length).toOrderEmbedding.trans place, fun i => ?_⟩
  have at_origin := pairwise.get i.isLt (length ▸ i.isLt)
  rw [same] at at_origin
  exact at_origin

/-- Shrinking refuses exactly the lists that do not fail.  What it makes of any other fails, and
its operations come, in their order, from operations of the list whose fields are the same or
were made simplest. -/
theorem shrink_keeps_origins (fails : List Operation → Bool) (limit : Int) (ops : List Operation) :
    (shrink (m := Id) fails limit ops = none ↔ fails ops = false) ∧
      ∀ shrunk, shrink (m := Id) fails limit ops = some shrunk →
        fails shrunk.operations = true ∧
        ∃ place : Fin shrunk.operations.length ↪o Fin ops.length,
          ∀ i, Simplifies (shrunk.operations.get i) (ops.get (place i)) := by
  cases failing : fails ops with
  | false =>
      have refused : shrink (m := Id) fails limit ops = none := shrink_of_passes limit failing
      refine ⟨⟨fun _ => rfl, fun _ => refused⟩, fun shrunk found => ?_⟩
      rw [refused] at found
      cases found
  | true =>
      have done := shrink_of_fails fails limit failing
      refine ⟨⟨fun refused => ?_, nofun⟩, fun shrunk found => ?_⟩
      · rw [done] at refused
        cases refused
      · rw [done] at found
        cases found
        have reduces : Reduces ops (settled fails limit ops) := Reduces.refl.settled fails limit
        exact ⟨fails_settled fails limit failing, exists_places reduces.simplifies⟩

theorem shrink_keeps_origins_detour :
    failsWithDetour [.logout "Alice", .logout "Bob", .logout "Carol", .accessSecret "Dave"] = true ∧
    ∃ shrunk, shrink (m := Id) failsWithDetour 0
        [.logout "Alice", .logout "Bob", .logout "Carol", .accessSecret "Dave"] = some shrunk ∧
      failsWithDetour shrunk.operations = true ∧
      ∃ place : Fin shrunk.operations.length ↪o Fin 4, ∀ i, Simplifies (shrunk.operations.get i)
        (List.get [.logout "Alice", .logout "Bob", .logout "Carol", .accessSecret "Dave"]
          (place i)) := by
  have failing : failsWithDetour
      [.logout "Alice", .logout "Bob", .logout "Carol", .accessSecret "Dave"] = true := by
    decide
  obtain ⟨refuses, keeps⟩ := shrink_keeps_origins failsWithDetour 0
    [.logout "Alice", .logout "Bob", .logout "Carol", .accessSecret "Dave"]
  cases found : shrink (m := Id) failsWithDetour 0
      [.logout "Alice", .logout "Bob", .logout "Carol", .accessSecret "Dave"] with
  | none =>
      rw [refuses.mp found] at failing
      cases failing
  | some shrunk => exact ⟨failing, shrunk, rfl, keeps shrunk found⟩

end Shrink

end Gatekeeper
