import Gatekeeper.Proofs.Http.Reading
import Gatekeeper.Proofs.Store.Refusal

/-!
# What a status tells

A call can be refused for a reason only, and an access to a secret that returns gives
one.  So the status of the response to a call that returns or is refused tells which,
and for a refusal its kind.
-/

namespace Gatekeeper

/-- A result that a call can have: a refusal says why, and an access to a secret gives one. -/
def Call.CanEndIn (call : Call) : Except Failure Value → Prop
  | .ok value => ∀ user, call = .accessSecret user → ∃ secret, value = .secret secret
  | .error failure => ∀ text, failure ≠ .refused (.general text)

/-! ## Results of calls -/

namespace Store

theorem canEndIn_guarded {call : Call} {point : FailPoint} {Armed : Prop} [Decidable Armed]
    {asked : Progress} {inner : Except Failure Value × Progress}
    (through : call.CanEndIn inner.1) :
    call.CanEndIn (if Armed then (.error point.failure, asked) else inner).1 := by
  split
  · exact nofun
  · exact through

/-- What cannot be compared is no refusal. -/
theorem ne_refused_of_matching {stored : Stored} {password : Password} {failure : Failure}
    (matching : stored.matching password = .error failure) (refusal : Refusal) :
    failure ≠ .refused refusal := by
  rintro rfl
  cases stored with
  | bare value => cases matching
  | hashed hash =>
      rw [Stored.matching] at matching
      cases verified : hash.verify password <;> simp [verified] at matching

section Calls

variable (config : Config) (salts : SaltSource) {p : Progress}

theorem canEndIn_register (sound : p.backend.defects = .none) (user : String)
    (password : Password) :
    (Call.register user password).CanEndIn
      ((activity config salts (.register user password)).outcome p).1 := by
  rw [outcome_register config salts sound]
  cases UserId.check user with
  | error malformation => exact nofun
  | ok id =>
      refine canEndIn_guarded ?_
      cases p.backend.memory.users.get? id with
      | some stored => exact nofun
      | none =>
          dsimp only
          cases password.hash (salts.draw (p.draws + 1) config.saltBytes)
              config.hashIterations with
          | error fault => exact nofun
          | ok hash =>
              refine canEndIn_guarded ?_
              exact nofun

theorem canEndIn_login (sound : p.backend.defects = .none) (presented : Presented) :
    (Call.login presented).CanEndIn
      ((activity config salts (.login presented)).outcome p).1 := by
  rw [outcome_login config salts sound]
  cases presented.credentials with
  | error malformation => exact nofun
  | ok credentials =>
      refine canEndIn_guarded ?_
      cases p.backend.memory.users.get? credentials.user with
      | none => exact nofun
      | some stored =>
          dsimp only
          cases matching : stored.matching credentials.password with
          | error failure => exact fun text => ne_refused_of_matching matching (.general text)
          | ok equal =>
              cases equal with
              | false => exact nofun
              | true =>
                  refine canEndIn_guarded ?_
                  exact nofun

theorem canEndIn_accessSecret (sound : p.backend.defects = .none) (user : String) :
    (Call.accessSecret user).CanEndIn
      ((activity config salts (.accessSecret user)).outcome p).1 := by
  rw [outcome_accessSecret config salts sound]
  cases UserId.check user with
  | error malformation => exact nofun
  | ok id =>
      refine canEndIn_guarded ?_
      by_cases live : id ∈ p.backend.memory.sessions
      · rw [if_pos live]
        cases Template.render config.secretTemplate id with
        | error fault => exact nofun
        | ok message => exact fun _ _ => ⟨_, rfl⟩
      · rw [if_neg live]
        exact nofun

end Calls

theorem canEndIn_result {s : Store} (sound : s.backend.defects = .none) (call : Call) :
    call.CanEndIn (s.act (.call call)).result := by
  have sound : s.progress.backend.defects = .none := sound
  cases call with
  | register user password => exact canEndIn_register s.config s.salts sound user password
  | login presented => exact canEndIn_login s.config s.salts sound presented
  | logout user =>
      rw [result_act, outcome_logout s.config s.salts sound]
      cases UserId.check user with
      | error malformation => exact nofun
      | ok id =>
          refine canEndIn_guarded ?_
          exact nofun
  | isLoggedIn user =>
      rw [result_act, outcome_isLoggedIn s.config s.salts sound]
      cases UserId.check user with
      | error malformation => exact nofun
      | ok id =>
          refine canEndIn_guarded ?_
          exact nofun
  | accessSecret user => exact canEndIn_accessSecret s.config s.salts sound user

end Store

/-! ## Statuses -/

def RefusalKind.status : RefusalKind → Nat
  | general => 500
  | alreadyRegistered => 409
  | malformedCredentials => 400
  | notAuthenticated => 403
  | storage => 503

theorem RefusalKind.status_injective {kind other : RefusalKind}
    (same : kind.status = other.status) :
    kind = other := by
  cases kind <;> cases other <;> first | rfl | cases same

namespace Http

def Route.status : Route → Nat
  | register => 201
  | login | logout | secret _ => 200

theorem Route.status_ne (route : Route) (kind : RefusalKind) : route.status ≠ kind.status := by
  cases route <;> cases kind <;> exact nofun

theorem Route.status_lt (route : Route) : route.status < 400 := by
  cases route <;> simp [Route.status]

structure Tells (route : Route) (status : Nat) (result : Except Failure Value) : Prop where
  returned : status = route.status ↔ ∃ value, result = .ok value
  refused : ∀ kind : RefusalKind, status = kind.status ↔
    ∃ refusal, result = .error (.refused refusal) ∧ refusal.kind = kind
  known : status = route.status ∨ ∃ kind : RefusalKind, kind ≠ .general ∧ status = kind.status

theorem status_of_returned {demand : Demand} {value : Value}
    (possible : demand.call.CanEndIn (.ok value)) :
    (demand.respond value).status = demand.route.status := by
  cases demand with
  | secret user =>
      obtain ⟨secret, rfl⟩ := possible user rfl
      rfl
  | _ => rfl

theorem status_of_refusal {refusal : Refusal} (reason : ∀ text, refusal ≠ .general text) :
    (Reply.ofRefusal refusal).response.status = refusal.kind.status := by
  cases refusal with
  | general text => exact absurd rfl (reason text)
  | _ => rfl

/-- If a call returns or is refused, the status tells which. -/
theorem tells_of_hasOutcome {demand : Demand} {result : Except Failure Value}
    (possible : demand.call.CanEndIn result) (ended : HasOutcome result) :
    Tells demand.route (Reply.ofResult demand result).response.status result := by
  cases result with
  | ok value =>
      have status : (Reply.ofResult demand (.ok value)).response.status = demand.route.status :=
        status_of_returned possible
      rw [status]
      refine ⟨⟨fun _ => ⟨value, rfl⟩, fun _ => rfl⟩, fun kind => ⟨?_, nofun⟩, .inl rfl⟩
      exact fun same => absurd same (demand.route.status_ne kind)
  | error failure =>
      obtain ⟨refusal, rfl⟩ := hasOutcome_iff.mp ended failure rfl
      have reason (text : String) : refusal ≠ .general text := by
        rintro rfl
        exact possible text rfl
      have status : (Reply.ofResult demand (.error (.refused refusal))).response.status =
          refusal.kind.status :=
        status_of_refusal reason
      rw [status]
      refine ⟨⟨?_, nofun⟩, fun kind => ⟨?_, ?_⟩, .inr ⟨refusal.kind, ?_, rfl⟩⟩
      · exact fun same => absurd same.symm (demand.route.status_ne refusal.kind)
      · exact fun same => ⟨refusal, rfl, RefusalKind.status_injective same⟩
      · rintro ⟨other, same, rfl⟩
        cases same
        rfl
      · cases refusal with
        | general text => exact absurd rfl (reason text)
        | _ => exact nofun

end Http

end Gatekeeper
