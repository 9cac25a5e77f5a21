import Gatekeeper.Proofs.Store.Effect

/-!
# What a call cannot tell apart

An activity respects a relation between stages of progress if it ends the same way
from related ones and leaves related ones behind.  A relation that cannot be seen of
the session of a user is respected by every call for that user that needs no password,
and one that the five methods of a backend respect for a user by every call except
perhaps a registration, which draws a salt.
-/

namespace Gatekeeper

namespace Activity

variable {α β : Type} {R : Progress → Progress → Prop}

/-- From related beginnings an activity ends with one result, and its ends are related. -/
def Respects (activity : Activity α) (R : Progress → Progress → Prop) : Prop :=
  ∀ p q, R p q → (activity.outcome p).1 = (activity.outcome q).1 ∧
    R (activity.outcome p).2 (activity.outcome q).2

theorem Respects.bind {activity : Activity α} {next : α → Activity β}
    (first : activity.Respects R) (second : ∀ a, (next a).Respects R) :
    (activity >>= next).Respects R := by
  intro p q related
  obtain ⟨same, after⟩ := first p q related
  rw [outcome_bind, outcome_bind]
  generalize activity.outcome p = ended at same after ⊢
  generalize activity.outcome q = ended' at same after ⊢
  obtain ⟨result, p'⟩ := ended
  obtain ⟨result', q'⟩ := ended'
  have same : result = result' := same
  subst same
  cases result with
  | ok a => exact second a p' q' after
  | error failure => exact ⟨rfl, after⟩

theorem respects_pure (a : α) : (pure a : Activity α).Respects R :=
  fun _ _ related => ⟨rfl, related⟩

theorem respects_stop (failure : Failure) : (stop failure : Activity α).Respects R :=
  fun _ _ related => ⟨rfl, related⟩

/-- What comes after a demand only counts for what is demanded. -/
theorem respects_demand_bind {checked : Except Malformation α} {next : α → Activity β}
    (later : ∀ a, checked = .ok a → (next a).Respects R) :
    (demand checked >>= next).Respects R := by
  cases checked with
  | ok a => exact later a rfl
  | error malformation => exact fun _ _ related => ⟨rfl, related⟩

end Activity

/-- A relation that cannot be seen by what is asked and done about the session of a user. -/
structure SessionUnseen (R : Progress → Progress → Prop) (user : String) : Prop where
  guards : ∀ {p q}, R p q → p.backend.guards = q.backend.guards
  live : ∀ {p q}, R p q → p.backend.defects.hasSession p.backend.memory user =
    q.backend.defects.hasSession q.backend.memory user
  noted : ∀ {p q} event, R p q → R (p.noting event) (q.noting event)
  guarded : ∀ {p q} guards, R p q → R (p.behind guards) (q.behind guards)
  closed : ∀ {p q}, R p q →
    R (p.withMemory (p.backend.defects.removeSession p.backend.memory user))
      (q.withMemory (q.backend.defects.removeSession q.backend.memory user))

def Call.Passwordless : Call → Prop
  | .register _ _ | .login _ => False
  | .logout _ | .isLoggedIn _ | .accessSecret _ => True

namespace SessionUnseen

open Activity Backend Store

variable {R : Progress → Progress → Prop} {user : String}

/-! ## Methods -/

theorem isArmed (unseen : SessionUnseen R user) {p q : Progress} (related : R p q) :
    p.backend.isArmed = q.backend.isArmed := by
  funext point
  rw [Backend.isArmed, Backend.isArmed, unseen.guards related]

theorem pass (unseen : SessionUnseen R user) (point : FailPoint) : (pass point).Respects R := by
  intro p q related
  rw [outcome_pass, outcome_pass, unseen.isArmed related]
  by_cases armed : q.backend.isArmed point = true
  · rw [if_pos armed, if_pos armed]
    exact ⟨rfl, unseen.noted _ related⟩
  · rw [if_neg armed, if_neg armed]
    exact ⟨rfl, unseen.noted _ related⟩

theorem log (unseen : SessionUnseen R user) (level : Log.Level) (logger message : String) :
    (log level logger message).Respects R :=
  fun _ _ related => ⟨rfl, unseen.noted _ related⟩

theorem removeSession (unseen : SessionUnseen R user) : (removeSession user).Respects R :=
  (unseen.pass .removeSession).bind fun _ _ _ related => ⟨rfl, unseen.closed related⟩

theorem hasSession (unseen : SessionUnseen R user) : (hasSession user).Respects R :=
  (unseen.pass .hasSession).bind fun _ _ _ related =>
    ⟨congrArg Except.ok (unseen.live related), related⟩

/-! ## Arming -/

theorem rearm (unseen : SessionUnseen R user) (depth : Nat) (request : String)
    (change : Roster FailPoint → Roster FailPoint) : (rearm depth request change).Respects R := by
  intro p q related
  have guards := unseen.guards related
  rw [outcome_rearm, outcome_rearm, updateGuard?, updateGuard?, guards]
  by_cases inside : depth < q.backend.guards.length
  · rw [if_pos inside, if_pos inside]
    exact ⟨rfl, unseen.guarded _ related⟩
  · rw [if_neg inside, if_neg inside]
    exact ⟨rfl, related⟩

theorem arm (unseen : SessionUnseen R user) (depth : Nat) (name : String) :
    (arm depth name).Respects R := by
  rw [Backend.arm]
  cases FailPoint.ofName? name with
  | some point => exact (unseen.rearm depth _ _).bind fun _ => unseen.log _ _ _
  | none => exact (unseen.rearm depth _ _).bind fun _ => respects_stop _

theorem disarm (unseen : SessionUnseen R user) (depth : Nat) (name : String) :
    (disarm depth name).Respects R := unseen.rearm depth _ _

theorem reset (unseen : SessionUnseen R user) (depth : Nat) : (reset depth).Respects R :=
  unseen.rearm depth _ _

/-- An action that is no call is an activity that changes the guards. -/
theorem arming (unseen : SessionUnseen R user) {action : Action}
    (arms : ∀ call, action ≠ .call call) :
    ∃ activity : Activity Unit, activity.Respects R ∧
      ∀ s : Store, s.act action = (s.run activity).map fun _ => .done := by
  cases action with
  | call call => exact absurd rfl (arms call)
  | arm name => exact ⟨_, unseen.arm 0 name, fun _ => rfl⟩
  | disarm name => exact ⟨_, unseen.disarm 0 name, fun _ => rfl⟩
  | reset => exact ⟨_, unseen.reset 0, fun _ => rfl⟩

/-! ## Calls -/

theorem of_check {checked : Except Malformation String} (concerns : checked = .ok user)
    {id : String} (read : checked = .ok id) : id = user := by
  rw [concerns] at read
  exact (Except.ok.inj read).symm

theorem logout (unseen : SessionUnseen R user) (concerns : UserId.check user = .ok user) :
    (logout user).Respects R := by
  refine respects_demand_bind fun id read => ?_
  obtain rfl := of_check concerns read
  exact unseen.removeSession.bind fun _ => unseen.log _ _ _

theorem isLoggedIn (unseen : SessionUnseen R user) (concerns : UserId.check user = .ok user) :
    (isLoggedIn user).Respects R := by
  refine respects_demand_bind fun id read => ?_
  obtain rfl := of_check concerns read
  exact unseen.hasSession

theorem accessSecret (unseen : SessionUnseen R user) (config : Config)
    (concerns : UserId.check user = .ok user) : (accessSecret config user).Respects R := by
  refine respects_demand_bind fun id read => ?_
  obtain rfl := of_check concerns read
  refine unseen.hasSession.bind fun live => ?_
  cases live with
  | false => exact respects_stop _
  | true =>
      rw [if_pos rfl]
      cases Template.render config.secretTemplate id with
      | ok message => exact respects_pure _
      | error fault => exact respects_stop _

theorem activity (unseen : SessionUnseen R user) (config : Config) (salts : SaltSource)
    {call : Call} (concerns : call.about = .ok user) (passwordless : call.Passwordless) :
    (activity config salts call).Respects R := by
  have named : ∀ {name : String}, UserId.check name = .ok user → name = user := by
    intro name checked
    exact (UserId.check_eq_ok_iff.mp checked).2.symm
  cases call with
  | register name password => exact passwordless.elim
  | login presented => exact passwordless.elim
  | logout name =>
      obtain rfl := named concerns
      exact (unseen.logout concerns).bind fun _ => respects_pure _
  | isLoggedIn name =>
      obtain rfl := named concerns
      exact (unseen.isLoggedIn concerns).bind fun _ => respects_pure _
  | accessSecret name =>
      obtain rfl := named concerns
      exact (unseen.accessSecret config concerns).bind fun _ => respects_pure _

end SessionUnseen

/-- A call that concerns nobody ends the same way, and leaves everything as it is. -/
theorem Store.respects_of_about {R : Progress → Progress → Prop} {config : Config}
    {salts : SaltSource} {call : Call}
    (respects : ∀ user, call.about = .ok user → (activity config salts call).Respects R) :
    (activity config salts call).Respects R := by
  cases concerns : call.about with
  | ok user => exact respects user concerns
  | error malformation =>
      intro p q related
      rw [outcome_of_malformed config salts concerns, outcome_of_malformed config salts concerns]
      exact ⟨rfl, related⟩

/-- A relation that no method of a backend can see when it is used for a user. -/
structure Unseen (R : Progress → Progress → Prop) (user : String) : Prop where
  guards : ∀ {p q}, R p q → p.backend.guards = q.backend.guards
  stored : ∀ {p q}, R p q →
    p.backend.memory.users.get? user = q.backend.memory.users.get? user
  live : ∀ {p q}, R p q → p.backend.defects.hasSession p.backend.memory user =
    q.backend.defects.hasSession q.backend.memory user
  noted : ∀ {p q} event, R p q → R (p.noting event) (q.noting event)
  guarded : ∀ {p q} guards, R p q → R (p.behind guards) (q.behind guards)
  opened : ∀ {p q}, R p q →
    R (p.withMemory (p.backend.defects.addSession p.backend.memory user))
      (q.withMemory (q.backend.defects.addSession q.backend.memory user))
  closed : ∀ {p q}, R p q →
    R (p.withMemory (p.backend.defects.removeSession p.backend.memory user))
      (q.withMemory (q.backend.defects.removeSession q.backend.memory user))

namespace Unseen

open Activity Backend Store

variable {R : Progress → Progress → Prop} {user : String}

theorem session (unseen : Unseen R user) : SessionUnseen R user where
  guards := unseen.guards
  live := unseen.live
  noted := unseen.noted
  guarded := unseen.guarded
  closed := unseen.closed

theorem getPassword (unseen : Unseen R user) : (getPassword user).Respects R :=
  (unseen.session.pass .getPassword).bind fun _ _ _ related =>
    ⟨congrArg Except.ok (unseen.stored related), related⟩

theorem addSession (unseen : Unseen R user) : (addSession user).Respects R :=
  (unseen.session.pass .addSession).bind fun _ _ _ related => ⟨rfl, unseen.opened related⟩

theorem verify (stored : Stored) (password : Password) :
    (Store.verify stored password).Respects R := by
  intro p q related
  rw [outcome_verify, outcome_verify]
  exact ⟨rfl, related⟩

theorem deny (unseen : Unseen R user) (name reason : String) :
    (deny name reason).Respects R :=
  (unseen.session.log _ _ _).bind fun _ => respects_pure false

theorem login (unseen : Unseen R user) {presented : Presented}
    (concerns : (Call.login presented).about = .ok user) : (login presented).Respects R := by
  refine respects_demand_bind fun credentials read => ?_
  have same : credentials.user = user := by simpa [Call.about, read] using concerns
  rw [same]
  refine unseen.getPassword.bind fun found => ?_
  cases found with
  | none => exact unseen.deny _ _
  | some stored =>
      refine (verify stored credentials.password).bind fun matching => ?_
      cases matching with
      | false => exact unseen.deny _ _
      | true => exact unseen.addSession.bind fun _ =>
          (unseen.session.log _ _ _).bind fun _ => respects_pure true

/-- A call that draws no salt ends the same way from progress that it cannot tell apart. -/
theorem activity (unseen : Unseen R user) (config : Config) (salts : SaltSource) {call : Call}
    (concerns : call.about = .ok user)
    (saltless : ∀ name password, call ≠ .register name password) :
    (activity config salts call).Respects R := by
  cases call with
  | register name password => exact absurd rfl (saltless name password)
  | login presented => exact (unseen.login concerns).bind fun _ => respects_pure _
  | _ => exact unseen.session.activity config salts concerns trivial

/-- What no user can see, no call but a registration can see. -/
theorem activity_of_all (unseen : ∀ user, Unseen R user) (config : Config) (salts : SaltSource)
    {call : Call} (saltless : ∀ name password, call ≠ .register name password) :
    (Store.activity config salts call).Respects R :=
  respects_of_about fun user concerns => (unseen user).activity config salts concerns saltless

end Unseen

end Gatekeeper
