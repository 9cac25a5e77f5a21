import Gatekeeper.Random.Source

/-!
# What draws yield

A draw yields a property if it succeeds from every state of its source and its result
has the property.  Nothing is used of a source but the range of its numbers.
-/

namespace Gatekeeper

namespace Draw

variable {σ α β : Type} {P : α → Prop} {Q : β → Prop}

/-- Whatever the state, a draw succeeds with a result that has a property. -/
def Yields (draw : Draw σ α) (P : α → Prop) : Prop :=
  ∀ state, ∃ a, (draw.run state).1 = .ok a ∧ P a

theorem Yields.mono {draw : Draw σ α} (yields : draw.Yields P) {P' : α → Prop}
    (weaker : ∀ a, P a → P' a) : draw.Yields P' := by
  intro state
  obtain ⟨a, drawn, holds⟩ := yields state
  exact ⟨a, drawn, weaker a holds⟩

theorem run_bind (draw : Draw σ α) (next : α → Draw σ β) (state : σ) :
    (draw >>= next).run state =
      match draw.run state with
      | (.ok a, state) => (next a).run state
      | (.error failure, state) => (.error failure, state) := by
  have unfolded : (draw >>= next).run state =
      ExceptT.bindCont next (draw.run state).1 (draw.run state).2 := rfl
  rw [unfolded]
  obtain ⟨result, state'⟩ := draw.run state
  cases result with
  | ok a => rfl
  | error failure => rfl

theorem yields_pure {a : α} (holds : P a) : (pure a : Draw σ α).Yields P :=
  fun _ => ⟨a, rfl, holds⟩

theorem Yields.bind {draw : Draw σ α} (yields : draw.Yields P) {next : α → Draw σ β}
    (later : ∀ a, P a → (next a).Yields Q) : (draw >>= next).Yields Q := by
  intro state
  obtain ⟨a, drawn, holds⟩ := yields state
  rw [run_bind]
  generalize draw.run state = ended at drawn ⊢
  obtain ⟨result, state'⟩ := ended
  cases drawn
  exact later a holds state'

theorem yields_below (source : RandomSource σ) {bound : Nat} (positive : 0 < bound) :
    (below source bound positive).Yields fun _ => True :=
  fun _ => ⟨_, rfl, trivial⟩

theorem yields_between (source : RandomSource σ) {first last : Int} (nonempty : first ≤ last) :
    (between source first last).Yields fun n => first ≤ n ∧ n ≤ last := by
  rw [between, dif_pos nonempty]
  refine (yields_below source _).bind fun offset _ => yields_pure ?_
  have small := offset.isLt
  omega

theorem yields_pick (source : RandomSource σ) {xs : List α} (nonempty : 0 < xs.length) :
    (pick source xs nonempty).Yields fun x => x ∈ xs :=
  (yields_below source nonempty).bind fun _ _ => yields_pure (List.getElem_mem _)

theorem Yields.times {draw : Draw σ α} (yields : draw.Yields P) (count : Nat) :
    (times draw count).Yields fun xs => xs.length = count ∧ ∀ x ∈ xs, P x := by
  induction count with
  | zero => exact yields_pure ⟨rfl, nofun⟩
  | succ count ih =>
      refine yields.bind fun x holds => ih.bind fun rest drawn => yields_pure ⟨?_, ?_⟩
      · rw [List.length_cons, drawn.1]
      · exact List.forall_mem_cons.mpr ⟨holds, drawn.2⟩

end Draw

end Gatekeeper
