import Gatekeeper.Simulation.Operation
import Mathlib.Order.Defs.Unbundled

/-!
# Simpler operations

An operation that is simpler than another has one field made simplest.  An operation that
simplifies another may have any of its fields made simplest, so each simpler operation does,
and so does whatever is reached through several of them.
-/

namespace Gatekeeper

namespace Operation

theorem eq_of_mem_unless {simplest : Prop} [Decidable simplest] {variant other : Operation}
    (member : variant ∈ if simplest then [] else [other]) : variant = other := by
  split at member
  · cases member
  · exact List.mem_singleton.mp member

/-- A simpler operation has one field replaced by the simplest text for it. -/
theorem mem_simpler {op variant : Operation} (simpler : variant ∈ op.simpler) :
    variant = op.withUser simplestUser ∨
      (∃ user password, op = register user password ∧
        variant = register user simplestPassword) ∨
      ∃ point, op = fail point ∧ variant = fail simplestPoint := by
  cases op with
  | register user password =>
      rcases List.mem_append.mp simpler with letter | other
      · exact .inr (.inl ⟨user, password, rfl, eq_of_mem_unless letter⟩)
      · exact .inl (eq_of_mem_unless other)
  | fail point => exact .inr (.inr ⟨point, rfl, eq_of_mem_unless simpler⟩)
  | _ => exact .inl (eq_of_mem_unless simpler)

/-! ## Fields that are kept or made simplest -/

def KeptOr (simplest text original : String) : Prop := text = original ∨ text = simplest

theorem KeptOr.trans {simplest text middle original : String} (later : KeptOr simplest text middle)
    (earlier : KeptOr simplest middle original) : KeptOr simplest text original := by
  rcases later with rfl | rfl
  · exact earlier
  · exact .inr rfl

/-- An operation of the same kind as the original one, each of whose fields is the original or
the simplest one. -/
inductive Simplifies : (op original : Operation) → Prop where
  | register {user user' password password' : String} (user_kept : KeptOr simplestUser user user')
      (password_kept : KeptOr simplestPassword password password') :
      Simplifies (.register user password) (.register user' password')
  | loginRight {user user' : String} (user_kept : KeptOr simplestUser user user') :
      Simplifies (.loginRight user) (.loginRight user')
  | loginWrong {user user' : String} (user_kept : KeptOr simplestUser user user') :
      Simplifies (.loginWrong user) (.loginWrong user')
  | logout {user user' : String} (user_kept : KeptOr simplestUser user user') :
      Simplifies (.logout user) (.logout user')
  | accessSecret {user user' : String} (user_kept : KeptOr simplestUser user user') :
      Simplifies (.accessSecret user) (.accessSecret user')
  | fail {point point' : String} (point_kept : KeptOr simplestPoint point point') :
      Simplifies (.fail point) (.fail point')

namespace Simplifies

theorem refl (op : Operation) : op.Simplifies op := by
  cases op with
  | register user password => exact .register (.inl rfl) (.inl rfl)
  | loginRight user => exact .loginRight (.inl rfl)
  | loginWrong user => exact .loginWrong (.inl rfl)
  | logout user => exact .logout (.inl rfl)
  | accessSecret user => exact .accessSecret (.inl rfl)
  | fail point => exact .fail (.inl rfl)

theorem trans {op middle original : Operation} (later : op.Simplifies middle)
    (earlier : middle.Simplifies original) : op.Simplifies original := by
  cases later with
  | register user_kept password_kept =>
      cases earlier with
      | register user_kept' password_kept' =>
          exact .register (user_kept.trans user_kept') (password_kept.trans password_kept')
  | loginRight user_kept =>
      cases earlier with
      | loginRight user_kept' => exact .loginRight (user_kept.trans user_kept')
  | loginWrong user_kept =>
      cases earlier with
      | loginWrong user_kept' => exact .loginWrong (user_kept.trans user_kept')
  | logout user_kept =>
      cases earlier with
      | logout user_kept' => exact .logout (user_kept.trans user_kept')
  | accessSecret user_kept =>
      cases earlier with
      | accessSecret user_kept' => exact .accessSecret (user_kept.trans user_kept')
  | fail point_kept =>
      cases earlier with
      | fail point_kept' => exact .fail (point_kept.trans point_kept')

instance : Std.Refl Simplifies := ⟨refl⟩

instance : IsTrans Operation Simplifies := ⟨fun _ _ _ => trans⟩

theorem withUser (op : Operation) : (op.withUser simplestUser).Simplifies op := by
  cases op with
  | register user password => exact .register (.inr rfl) (.inl rfl)
  | loginRight user => exact .loginRight (.inr rfl)
  | loginWrong user => exact .loginWrong (.inr rfl)
  | logout user => exact .logout (.inr rfl)
  | accessSecret user => exact .accessSecret (.inr rfl)
  | fail point => exact .fail (.inl rfl)

theorem of_mem_simpler {op variant : Operation} (simpler : variant ∈ op.simpler) :
    variant.Simplifies op := by
  rcases mem_simpler simpler with rfl | ⟨user, password, rfl, rfl⟩ | ⟨point, rfl, rfl⟩
  · exact withUser op
  · exact .register (.inl rfl) (.inr rfl)
  · exact .fail (.inr rfl)

end Simplifies

end Operation

end Gatekeeper
