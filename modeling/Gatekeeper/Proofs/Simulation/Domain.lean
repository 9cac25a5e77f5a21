import Gatekeeper.Proofs.Shrink.Candidates
import Gatekeeper.Proofs.Simulation.Trial

/-!
# Drawn lists stay within the domain of replays

Lists that are drawn are no longer than they may be and hold drawable operations.  Deletion and
simplification leave only drawable operations, so that is also true of every list that shrinking
has to do with, and no replay of such a list fails.
-/

namespace Gatekeeper

open Operation
open Gatekeeper.Shrink

variable {σ : Type}

/-- Every draw of a list succeeds.  Its operations are drawable, and so are those of all lists
that shrinking has to do with, whatever the answers of the test and the limit; the replay of each
ends, with a divergence or without one.  So shrinking with the replay itself as the test ends too,
without a list if there is no divergence. -/
theorem drawn_lists_answer (source : RandomSource σ) {longest : Int} (nonneg : 0 ≤ longest)
    {fresh : Store} (sound : fresh.backend.defects = .none)
    (guarded : 0 < fresh.backend.guards.length) (verifiable : fresh.backend.memory.Verifiable)
    (bound : fresh.config.hashIterations ≤ Hash.Pbkdf2.maxIterations)
    (renders : ∀ user ∈ users,
      ∃ message, Template.render fresh.config.secretTemplate user = .ok message) :
    (randomList source longest).Yields fun ops =>
      (ops.length : Int) ≤ longest ∧
      (∀ answer limit xs, Touches answer limit ops xs →
        (xs.length : Int) ≤ longest ∧ Within Drawable xs ∧
          ∃ verdict, replay fresh xs = .ok verdict) ∧
      ∀ limit, ∃ shrunk?, shrink (diverges fresh) limit ops = .ok shrunk? := by
  have answering : Answering fresh :=
    fun _ drawable => exists_replay sound guarded verifiable bound renders drawable
  refine (yields_randomList source nonneg).mono fun ops drawn => ?_
  obtain ⟨short, drawable⟩ := drawn
  refine ⟨short, fun answer limit xs touches => ?_, fun limit => ?_⟩
  · have reduces := touches.reduces
    have shorter := reduces.length_le
    have within := reduces.within closedUnderSimpler_drawable drawable
    exact ⟨by omega, within, answering xs within⟩
  · exact ⟨_, answering.answers.shrink_pure limit closedUnderSimpler_drawable drawable⟩

/-- Whatever is drawn from the digits of a number is replayed on the store of simulations. -/
theorem drawn_lists_answer_simulated :
    (randomList Trials.digits 50).Yields fun ops =>
      (ops.length : Int) ≤ 50 ∧ ∀ answer limit xs, Touches answer limit ops xs →
        ∃ verdict, replay simulatedStore xs = .ok verdict := by
  have answer := @drawn_lists_answer Nat Trials.digits 50 (by decide) simulatedStore rfl
    (by decide) nofun (by decide) fun user _ => ⟨_, Template.render_standard user⟩
  exact answer.mono fun ops holds => ⟨holds.1, fun _ _ _ touches => (holds.2.1 _ _ _ touches).2.2⟩

end Gatekeeper
