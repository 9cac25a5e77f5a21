import Gatekeeper.Proofs.Random.Draw
import Gatekeeper.Proofs.Shrink.Answered
import Gatekeeper.Proofs.Simulation.Operation
import Gatekeeper.Simulation.Generator

/-!
# What can be drawn

Drawn operations name users and fail points that there are, and passwords of at most
eight letters of the alphabet.  All that is simpler than such an operation is drawable
too, so shrinking never leaves what could have been drawn.
-/

namespace Gatekeeper

namespace Operation

variable {σ : Type}

def DrawablePassword (password : String) : Prop :=
  (1 ≤ (password.length : Int) ∧ (password.length : Int) ≤ passwordLength) ∧
    ∀ c ∈ password.toList, c ∈ passwordAlphabet

def Drawable : Operation → Prop
  | register user password => user ∈ users ∧ DrawablePassword password
  | loginRight user | loginWrong user | logout user | accessSecret user => user ∈ users
  | fail name => ∃ point : FailPoint, point.name = name

/-! ## Simpler operations -/

theorem drawablePassword_simplest : DrawablePassword simplestPassword := by
  refine ⟨by decide, ?_⟩
  intro c letter
  have single : simplestPassword.toList = ['a'] := by decide
  rw [single, List.mem_singleton] at letter
  rw [letter]
  decide +kernel

theorem Drawable.withUser {op : Operation} (drawable : op.Drawable) {user : String}
    (known : user ∈ users) : (op.withUser user).Drawable := by
  cases op with
  | register _ password => exact ⟨known, drawable.2⟩
  | fail name => exact drawable
  | _ => exact known

theorem closedUnderSimpler_drawable : Shrink.ClosedUnderSimpler Drawable := by
  intro op drawable variant simpler
  rcases mem_simpler simpler with rfl | ⟨user, password, rfl, rfl⟩ | ⟨point, rfl, rfl⟩
  · exact drawable.withUser (by decide)
  · exact ⟨drawable.1, drawablePassword_simplest⟩
  · exact ⟨.register, rfl⟩

/-! ## Drawn operations -/

theorem yields_randomPassword (source : RandomSource σ) :
    (randomPassword source passwordLength).Yields DrawablePassword := by
  refine (Draw.yields_between source (by decide)).bind fun length within => ?_
  refine ((Draw.yields_pick source passwordAlphabet_nonempty).times _).bind fun cs drawn => ?_
  refine Draw.yields_pure ⟨?_, ?_⟩
  · have size : (String.ofList cs).length = length.toNat := by simpa using drawn.1
    rw [size]
    omega
  · simpa using drawn.2

theorem yields_randomFor (source : RandomSource σ) {user : String} (known : user ∈ users) :
    (randomFor source user).Yields Drawable := by
  refine (Draw.yields_below source _).bind fun kind _ => ?_
  match kind with
  | 0 =>
      refine (yields_randomPassword source).bind fun password drawn => ?_
      exact Draw.yields_pure ⟨known, drawn⟩
  | 1 | 2 | 3 | 4 => exact Draw.yields_pure known

theorem yields_random (source : RandomSource σ) : (random source).Yields Drawable := by
  refine (Draw.yields_below source _).bind fun chance _ => ?_
  split
  · refine (Draw.yields_pick source _).bind fun point _ => ?_
    exact Draw.yields_pure ⟨point, rfl⟩
  · refine (Draw.yields_pick source _).bind fun user known => ?_
    exact yields_randomFor source known

theorem yields_randomList (source : RandomSource σ) {longest : Int} (nonneg : 0 ≤ longest) :
    (randomList source longest).Yields fun ops =>
      (ops.length : Int) ≤ longest ∧ Shrink.Within Drawable ops := by
  refine (Draw.yields_between source nonneg).bind fun length within => ?_
  refine ((yields_random source).times _).mono fun ops drawn => ⟨?_, drawn.2⟩
  rw [drawn.1]
  omega

end Operation

end Gatekeeper
