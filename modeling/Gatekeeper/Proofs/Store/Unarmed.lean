import Gatekeeper.Proofs.Store.Atomic
import Gatekeeper.Proofs.Store.Login

/-!
# Calls where nothing is armed

Where no fail point is armed, a call of a well-formed identifier is decided by who is
registered and who has a session.  However a call ends, its result decides what it
has left.
-/

namespace Gatekeeper

namespace Store

variable {s : Store} {user : String}

theorem result_register_of_known (sound : s.backend.defects = .none) (unarmed : s.Unarmed)
    (formed : UserId.WellFormed user) (known : user ∈ s.backend.memory.users)
    (password : Password) :
    (s.act (.call (.register user password))).result =
      .error (.refused (.alreadyRegistered user)) := by
  obtain ⟨stored, found⟩ := Option.isSome_iff_exists.mp (Directory.get?_isSome_iff.mpr known)
  rw [result_act, outcome_register s.config s.salts sound, UserId.check_of_wellFormed formed]
  simp only [progress_backend, unarmed .getPassword, found, Bool.false_eq_true, if_false]

theorem result_logout (sound : s.backend.defects = .none) (unarmed : s.Unarmed)
    (formed : UserId.WellFormed user) :
    (s.act (.call (.logout user))).result = .ok .done := by
  rw [result_act, outcome_logout s.config s.salts sound, UserId.check_of_wellFormed formed]
  simp only [progress_backend, unarmed .removeSession, Bool.false_eq_true, if_false]

/-- What a call has left is decided by how it ended. -/
theorem leaves_acted (sound : s.backend.defects = .none) (call : Call) :
    LeavesOf s.config s.nextSalt call s.backend (s.acted (.call call)).backend
      (s.act (.call call)).result :=
  (effect_outcome s.config s.salts (p := s.progress) sound call).leavesOf

theorem leaves_of_returned (sound : s.backend.defects = .none) {call : Call} {value : Value}
    (returned : (s.act (.call call)).result = .ok value) :
    ∃ memory, (s.acted (.call call)).backend = { s.backend with memory } ∧
      call.Changes s.config s.nextSalt value s.backend.memory memory := by
  have leaves := leaves_acted sound call
  rw [returned] at leaves
  exact leaves

theorem backend_of_error (sound : s.backend.defects = .none) {call : Call} {failure : Failure}
    (failed : (s.act (.call call)).result = .error failure) :
    (s.acted (.call call)).backend = s.backend := by
  have leaves := leaves_acted sound call
  rw [failed] at leaves
  exact leaves

end Store

end Gatekeeper
