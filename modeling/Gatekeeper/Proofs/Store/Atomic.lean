import Gatekeeper.Proofs.Store.Sound

/-!
# Calls are atomic

Whatever a memory holds and whatever is armed on the guards before it, a call that
fails, at whichever step and for whatever reason, leaves users, sessions and guards
as they were, and so does a login that is denied.  A call that succeeds leaves the
guards as they were and makes the one change it is made for.
-/

namespace Gatekeeper

/-- What a call that returns a value has changed; `salt` is the next salt. -/
def Call.Changes (config : Config) (salt : List UInt8) (value : Value) (before after : Memory) :
    Call → Prop
  | .register user password =>
      value = .done ∧ user ∉ before.users ∧ ∃ hash,
        password.hash salt config.hashIterations = .ok hash ∧
        after.users.entries = before.users.entries ++ [(user, .hashed hash)] ∧
        after.sessions = before.sessions
  | .login presented =>
      (value = .flag false ∧ after = before) ∨
        (value = .flag true ∧ ∃ credentials, presented.credentials = .ok credentials ∧
          after = { before with sessions := before.sessions.insert credentials.user })
  | .logout user =>
      value = .done ∧ after = { before with sessions := before.sessions.erase user }
  | .isLoggedIn _ | .accessSecret _ => after = before

namespace Store

def LeavesOf (config : Config) (salt : List UInt8) (call : Call) (before after : Backend) :
    Except Failure Value → Prop
  | .error _ => after = before
  | .ok value => ∃ memory, after = { before with memory } ∧
      call.Changes config salt value before.memory memory

theorem Effect.leavesOf {config : Config} {salts : SaltSource} {p p' : Progress} {call : Call}
    {result : Except Failure Value} (effect : Effect config salts p call result p') :
    LeavesOf config (salts.draw (p.draws + 1) config.saltBytes) call p.backend p'.backend
      result := by
  cases effect with
  | failed backend => exact backend
  | looked backend draws idle =>
      refine ⟨p.backend.memory, backend, ?_⟩
      cases call with
      | register user password => exact idle.elim
      | login presented => exact .inl ⟨idle, rfl⟩
      | logout user => exact idle.elim
      | isLoggedIn user => exact rfl
      | accessSecret user => exact rfl
  | registered wellFormed absent hashed backend =>
      have new := Directory.get?_eq_none_iff.mp absent
      exact ⟨_, backend, rfl, new, _, hashed, Directory.enter_of_not_mem new _, rfl⟩
  | opened read found matching backend => exact ⟨_, backend, .inr ⟨rfl, _, read, rfl⟩⟩
  | closed wellFormed backend => exact ⟨_, backend, rfl, rfl⟩

/-- A call that fails or denies a login changes nothing, and one that succeeds changes no more
than it is made for. -/
theorem perform_atomic (config : Config) (salts : SaltSource) (draws : Nat)
    (guards : List (Roster FailPoint)) (memory : Memory) (call : Call) :
    let s := onMemory config salts draws guards memory
    let ended := s.perform call
    LeavesOf config (salts.draw (draws + 1) config.saltBytes) call s.backend ended.store.backend
      ended.result :=
  (effect_outcome config salts (p := (onMemory config salts draws guards memory).progress) rfl
    call).leavesOf

end Store

end Gatekeeper
