import Gatekeeper.Proofs.Store.Atomic
import Gatekeeper.Proofs.Store.Reachable

/-!
# Guards are transparent

A call behind guards goes the way that it would go without them, up to the first
method whose fail point is armed on some guard.  There it fails, and nothing was
changed before.  A malformed call reaches no method, so nothing that is armed
shows in how it is refused.
-/

namespace Gatekeeper

/-! ## Guards taken off and put back -/

namespace Backend

def unguarded (b : Backend) : Backend := { b with guards := [] }

end Backend

namespace Progress

def unguarded (p : Progress) : Progress := { p with backend := p.backend.unguarded }

theorem unguarded_behind {p : Progress} (bare : p.backend.guards = [])
    (guards : List (Roster FailPoint)) : (p.behind guards).unguarded = p := by
  obtain ⟨⟨_, defects, memory⟩, draws, events⟩ := p
  cases bare
  rfl

end Progress

def Ended.behind {α : Type} (e : Ended α) (guards : List (Roster FailPoint)) : Ended α :=
  { e with store := { e.store with backend := { e.store.backend with guards } } }

def Event.methods (events : List Event) : List FailPoint := events.filterMap Event.point?

theorem Event.methods_append (before after : List Event) :
    methods (before ++ after) = methods before ++ methods after := List.filterMap_append

namespace Activity

variable {α β : Type}

/-! ## Transparent activities -/

/-- Without its guards an activity ends as given, after the events `during`.  Behind them it ends
the same way unless one of its methods is armed, and on the first of these if one is. -/
structure ShownBehind (activity : Activity α) (p : Progress) (during : List Event)
    (ended : Except Failure α × Progress) : Prop where
  bare : activity.outcome p.unguarded = ended
  events : ended.2.events = p.events ++ during
  unguarded : ended.2.backend.guards = []
  unarmed : (Event.methods during).find? p.backend.isArmed = none →
    activity.outcome p = (ended.1, ended.2.behind p.backend.guards)
  armed : ∀ point, (Event.methods during).find? p.backend.isArmed = some point →
    (activity.outcome p).1 = .error point.failure

def Transparent (activity : Activity α) : Prop :=
  ∀ p, ∃ during ended, ShownBehind activity p during ended

section Sequences

variable {activity : Activity α} {next : α → Activity β} {p q : Progress}
  {during later : List Event}

theorem outcome_bind_fails {failure : Failure} (failed : (activity.outcome p).1 = .error failure)
    (next : α → Activity β) : ((activity >>= next).outcome p).1 = .error failure := by
  have ended : activity.outcome p = (.error failure, (activity.outcome p).2) := by rw [← failed]
  rw [outcome_bind_of_error ended]

theorem ShownBehind.bind_of_error {failure : Failure}
    (shown : ShownBehind activity p during (.error failure, q)) (next : α → Activity β) :
    ShownBehind (activity >>= next) p during (.error failure, q) where
  bare := outcome_bind_of_error shown.bare next
  events := shown.events
  unguarded := shown.unguarded
  unarmed := by
    intro unarmed
    exact outcome_bind_of_error (shown.unarmed unarmed) next
  armed := by
    intro point found
    exact outcome_bind_fails (shown.armed point found) next

/-- What comes next begins where the activity ends, behind the same guards. -/
theorem ShownBehind.bind_of_ok {a : α} {ended : Except Failure β × Progress}
    (shown : ShownBehind activity p during (.ok a, q))
    (continued : ShownBehind (next a) (q.behind p.backend.guards) later ended) :
    ShownBehind (activity >>= next) p (during ++ later) ended where
  bare := by
    rw [outcome_bind_of_ok shown.bare]
    have bare := continued.bare
    rwa [Progress.unguarded_behind shown.unguarded] at bare
  events := by
    have extended : ended.2.events = q.events ++ later := continued.events
    have before : q.events = p.events ++ during := shown.events
    rw [extended, before, List.append_assoc]
  unguarded := continued.unguarded
  unarmed := by
    intro unarmed
    rw [Event.methods_append, List.find?_append, Option.or_eq_none_iff] at unarmed
    rw [outcome_bind_of_ok (shown.unarmed unarmed.1)]
    exact continued.unarmed unarmed.2
  armed := by
    intro point found
    rw [Event.methods_append, List.find?_append] at found
    cases earlier : (Event.methods during).find? p.backend.isArmed with
    | some first =>
        rw [earlier, Option.some_or, Option.some.injEq] at found
        rw [← found]
        exact outcome_bind_fails (shown.armed first earlier) next
    | none =>
        rw [earlier, Option.none_or] at found
        rw [outcome_bind_of_ok (shown.unarmed earlier)]
        exact continued.armed point found

theorem Transparent.bind (first : Transparent activity) (second : ∀ a, Transparent (next a)) :
    Transparent (activity >>= next) := by
  intro p
  obtain ⟨during, ⟨result, q⟩, shown⟩ := first p
  cases result with
  | error failure => exact ⟨during, _, shown.bind_of_error next⟩
  | ok a =>
      obtain ⟨later, ended, continued⟩ := second a (q.behind p.backend.guards)
      exact ⟨during ++ later, ended, shown.bind_of_ok continued⟩

end Sequences

/-! ## The parts of a call -/

/-- What calls no method and does not look at the guards. -/
theorem transparent_of_methodless {activity : Activity α}
    (methodless : ∀ p : Progress, ∃ during, Event.methods during = [] ∧
      (activity.outcome p.unguarded).2.events = p.events ++ during)
    (unguarded : ∀ p : Progress, (activity.outcome p.unguarded).2.backend.guards = [])
    (through : ∀ p : Progress, activity.outcome p = ((activity.outcome p.unguarded).1,
      (activity.outcome p.unguarded).2.behind p.backend.guards)) :
    Transparent activity := by
  intro p
  obtain ⟨during, methodless, events⟩ := methodless p
  refine ⟨during, _, rfl, events, unguarded p, fun _ => through p, ?_⟩
  intro point found
  rw [methodless] at found
  cases found

theorem transparent_pure (a : α) : Transparent (pure a) := by
  refine transparent_of_methodless (fun p => ⟨[], rfl, ?_⟩) (fun _ => rfl) (fun _ => rfl)
  exact (List.append_nil p.events).symm

theorem transparent_stop (failure : Failure) : Transparent (stop failure : Activity α) := by
  refine transparent_of_methodless (fun p => ⟨[], rfl, ?_⟩) (fun _ => rfl) (fun _ => rfl)
  exact (List.append_nil p.events).symm

theorem transparent_demand (checked : Except Malformation α) : Transparent (demand checked) := by
  cases checked with
  | ok value => exact transparent_pure value
  | error malformation => exact transparent_stop _

theorem transparent_log (level : Log.Level) (logger message : String) :
    Transparent (log level logger message) :=
  transparent_of_methodless (fun _ => ⟨[_], rfl, rfl⟩) (fun _ => rfl) (fun _ => rfl)

theorem transparent_drawSalt (salts : SaltSource) (length : Nat) :
    Transparent (drawSalt salts length) :=
  transparent_of_methodless (fun _ => ⟨[_], rfl, rfl⟩) (fun _ => rfl) (fun _ => rfl)

theorem transparent_replaceMemory (memory : Memory) :
    Transparent (Backend.replaceMemory memory) := by
  refine transparent_of_methodless (fun p => ⟨[], rfl, ?_⟩) (fun _ => rfl) (fun _ => rfl)
  exact (List.append_nil p.events).symm

/-- The memory and its defects are the same without the guards. -/
theorem transparent_look {next : Defects → Memory → Activity α}
    (later : ∀ defects memory, Transparent (next defects memory)) :
    Transparent (do let p ← get; next p.backend.defects p.backend.memory) := by
  intro p
  obtain ⟨during, ended, shown⟩ := later p.backend.defects p.backend.memory p
  exact ⟨during, ended, shown.bare, shown.events, shown.unguarded, shown.unarmed, shown.armed⟩

theorem transparent_pass (point : FailPoint) : Transparent (Backend.pass point) := by
  intro p
  have asked : Event.methods [.invoked point] = [point] := rfl
  refine ⟨[.invoked point], (.ok (), p.unguarded.noting (.invoked point)), rfl, rfl, rfl, ?_, ?_⟩
  · intro unarmed
    rw [asked, List.find?_cons, List.find?_nil] at unarmed
    cases armed : p.backend.isArmed point with
    | true => simp [armed] at unarmed
    | false =>
        rw [Backend.outcome_pass, armed]
        rfl
  · intro first found
    rw [asked] at found
    have same : first = point := List.mem_singleton.mp (List.mem_of_find?_eq_some found)
    have armed : p.backend.isArmed first = true := List.find?_some found
    rw [same] at armed
    rw [Backend.outcome_pass, if_pos armed, same]

end Activity

/-! ## The methods of a backend -/

namespace Backend

open Activity

theorem transparent_getPassword (user : String) : Transparent (getPassword user) :=
  (transparent_pass .getPassword).bind fun _ =>
    transparent_look fun _ memory => transparent_pure (memory.users.get? user)

theorem transparent_entering (entered : Except Refusal Memory) :
    Transparent (match entered with
      | .ok memory => replaceMemory memory
      | .error refusal => refuse refusal : Activity Unit) := by
  cases entered with
  | ok memory => exact transparent_replaceMemory memory
  | error refusal => exact transparent_stop _

theorem transparent_register (user : String) (hash : PasswordHash) :
    Transparent (register user hash) := by
  have later := fun (defects : Defects) memory =>
    transparent_entering (defects.register memory user hash)
  exact (transparent_pass .register).bind fun _ => transparent_look later

theorem transparent_addSession (user : String) : Transparent (addSession user) :=
  (transparent_pass .addSession).bind fun _ =>
    transparent_look fun defects memory =>
      transparent_replaceMemory (defects.addSession memory user)

theorem transparent_removeSession (user : String) : Transparent (removeSession user) :=
  (transparent_pass .removeSession).bind fun _ =>
    transparent_look fun defects memory =>
      transparent_replaceMemory (defects.removeSession memory user)

theorem transparent_hasSession (user : String) : Transparent (hasSession user) :=
  (transparent_pass .hasSession).bind fun _ =>
    transparent_look fun defects memory => transparent_pure (defects.hasSession memory user)

end Backend

namespace Store

open Activity Backend

/-! ## Calls -/

theorem transparent_hashPassword (config : Config) (salts : SaltSource) (password : Password) :
    Transparent (hashPassword config salts password) := by
  refine (transparent_drawSalt salts config.saltBytes).bind fun salt => ?_
  cases password.hash salt config.hashIterations with
  | ok hash => exact transparent_pure hash
  | error fault => exact transparent_stop _

theorem transparent_verify (stored : Stored) (password : Password) :
    Transparent (verify stored password) := by
  cases stored with
  | bare text => exact transparent_stop _
  | hashed hash =>
      rw [verify]
      cases hash.verify password with
      | ok matching => exact transparent_pure matching
      | error fault => exact transparent_stop _

theorem transparent_deny (user reason : String) : Transparent (deny user reason) :=
  (transparent_log _ _ _).bind fun _ => transparent_pure false

theorem transparent_storeRegister (config : Config) (salts : SaltSource) (user : String)
    (password : Password) : Transparent (register config salts user password) := by
  refine (transparent_demand _).bind fun user => (transparent_getPassword user).bind fun found => ?_
  cases found with
  | some stored => exact transparent_stop _
  | none =>
      refine (transparent_hashPassword config salts password).bind fun hash => ?_
      exact (Backend.transparent_register user hash).bind fun _ => transparent_log _ _ _

theorem transparent_login (presented : Presented) : Transparent (login presented) := by
  refine (transparent_demand _).bind fun credentials =>
    (transparent_getPassword credentials.user).bind fun found => ?_
  cases found with
  | none => exact transparent_deny _ _
  | some stored =>
      refine (transparent_verify stored credentials.password).bind fun matching => ?_
      cases matching with
      | false => exact transparent_deny _ _
      | true =>
          exact (transparent_addSession _).bind fun _ =>
            (transparent_log _ _ _).bind fun _ => transparent_pure true

theorem transparent_logout (user : String) : Transparent (logout user) :=
  (transparent_demand _).bind fun user =>
    (transparent_removeSession user).bind fun _ => transparent_log _ _ _

theorem transparent_isLoggedIn (user : String) : Transparent (isLoggedIn user) :=
  (transparent_demand _).bind fun user => transparent_hasSession user

theorem transparent_accessSecret (config : Config) (user : String) :
    Transparent (accessSecret config user) := by
  refine (transparent_demand _).bind fun user => (transparent_hasSession user).bind fun live => ?_
  cases live with
  | false => exact transparent_stop _
  | true =>
      rw [if_pos rfl]
      cases Template.render config.secretTemplate user with
      | ok message => exact transparent_pure _
      | error fault => exact transparent_stop _

theorem transparent_activity (config : Config) (salts : SaltSource) (call : Call) :
    Transparent (activity config salts call) := by
  cases call with
  | register user password =>
      exact (transparent_storeRegister config salts user password).bind fun _ =>
        transparent_pure _
  | login presented => exact (transparent_login presented).bind fun _ => transparent_pure _
  | logout user => exact (transparent_logout user).bind fun _ => transparent_pure _
  | isLoggedIn user => exact (transparent_isLoggedIn user).bind fun _ => transparent_pure _
  | accessSecret user =>
      exact (transparent_accessSecret config user).bind fun _ => transparent_pure _

section Guards

variable (config : Config) (salts : SaltSource) (draws : Nat) (guards : List (Roster FailPoint))
  (memory : Memory) (call : Call)

/-- The call without the guards, as it was shown to go. -/
theorem perform_bare {during : List Event} {ended : Except Failure Value × Progress}
    (shown : (activity config salts call).ShownBehind
      (onMemory config salts draws guards memory).progress during ended) :
    (onMemory config salts draws [] memory).perform call =
      ⟨ended.1, (onMemory config salts draws [] memory).continued ended.2, ended.2.events⟩ :=
  perform_of_outcome (onMemory config salts draws [] memory) shown.bare

theorem perform_of_unarmed (unarmed :
    (Event.methods ((onMemory config salts draws [] memory).perform call).events).find?
      (onMemory config salts draws guards memory).backend.isArmed = none) :
    (onMemory config salts draws guards memory).perform call =
      ((onMemory config salts draws [] memory).perform call).behind guards := by
  obtain ⟨during, ended, shown⟩ :=
    transparent_activity config salts call (onMemory config salts draws guards memory).progress
  have bare := perform_bare config salts draws guards memory call shown
  have events : ended.2.events = during := shown.events
  rw [bare, events] at unarmed
  have through := perform_of_outcome (onMemory config salts draws guards memory)
    (shown.unarmed unarmed)
  rw [bare, through]
  rfl

theorem result_of_armed {point : FailPoint} (armed :
    (Event.methods ((onMemory config salts draws [] memory).perform call).events).find?
      (onMemory config salts draws guards memory).backend.isArmed = some point) :
    ((onMemory config salts draws guards memory).perform call).result = .error point.failure := by
  obtain ⟨during, ended, shown⟩ :=
    transparent_activity config salts call (onMemory config salts draws guards memory).progress
  have bare := perform_bare config salts draws guards memory call shown
  have events : ended.2.events = during := shown.events
  rw [bare, events] at armed
  exact shown.armed point armed

theorem backend_of_failed {failure : Failure}
    (failed : ((onMemory config salts draws guards memory).perform call).result = .error failure) :
    ((onMemory config salts draws guards memory).perform call).store.backend =
      (onMemory config salts draws guards memory).backend := by
  have left := (effect_outcome config salts
    (p := (onMemory config salts draws guards memory).progress) rfl call).leavesOf
  have result : ((activity config salts call).outcome
    (onMemory config salts draws guards memory).progress).1 = .error failure := failed
  rw [result] at left
  exact left

theorem perform_of_malformed {malformation : Malformation}
    (malformed : call.about = .error malformation) :
    Event.methods ((onMemory config salts draws guards memory).perform call).events = [] ∧
      ((onMemory config salts draws guards memory).perform call).result =
        .error (.malformed malformation) := by
  have refused := perform_of_outcome (onMemory config salts draws guards memory)
    (outcome_of_malformed config salts malformed _)
  rw [refused]
  exact ⟨rfl, rfl⟩

/-- Behind guards a call does what it does without them if none of its methods is armed, and
otherwise fails on the first that is and changes nothing; a malformed call has no methods. -/
theorem perform_behind_guards :
    let bare := (onMemory config salts draws [] memory).perform call
    let s := onMemory config salts draws guards memory
    (match (Event.methods bare.events).find? s.backend.isArmed with
      | none => s.perform call = bare.behind guards
      | some point => (s.perform call).result = .error point.failure ∧
          (s.perform call).store.backend = s.backend) ∧
      ∀ malformation, call.about = .error malformation →
        Event.methods bare.events = [] ∧
          (s.perform call).result = .error (.malformed malformation) := by
  intro bare s
  refine ⟨?_, ?_⟩
  · cases found : (Event.methods bare.events).find? s.backend.isArmed with
    | none => exact perform_of_unarmed config salts draws guards memory call found
    | some point =>
        have failed := result_of_armed config salts draws guards memory call found
        exact ⟨failed, backend_of_failed config salts draws guards memory call failed⟩
  · intro malformation malformed
    have bare := perform_of_malformed config salts draws [] memory call malformed
    exact ⟨bare.1, (perform_of_malformed config salts draws guards memory call malformed).2⟩

end Guards

/-- Of two methods that are armed on different guards, the one that is called first fails. -/
theorem perform_behind_guards_both :
    let guards := [Roster.empty.insert .register, .empty, Roster.empty.insert .getPassword]
    let bare := onMemory .fast .counter 0 [] .empty
    let s := onMemory .fast .counter 0 guards .empty
    Event.methods (bare.perform (.register "Bob" ⟨"pw"⟩)).events = [.getPassword, .register] ∧
      (s.perform (.register "Bob" ⟨"pw"⟩)).result = .error FailPoint.getPassword.failure ∧
      (s.perform (.logout "a:b")).result = .error (.malformed .separatorInIdentifier) := by
  intro guards bare s
  have methods : Event.methods (bare.perform (.register "Bob" ⟨"pw"⟩)).events =
      [.getPassword, .register] := by
    decide +kernel
  have shown := (perform_behind_guards .fast .counter 0 guards .empty
    (.register "Bob" ⟨"pw"⟩)).1
  have malformed := (perform_behind_guards .fast .counter 0 guards .empty (.logout "a:b")).2
  rw [show Event.methods _ = [FailPoint.getPassword, .register] from methods] at shown
  exact ⟨methods, shown.1, (malformed _ rfl).2⟩

end Store

end Gatekeeper
