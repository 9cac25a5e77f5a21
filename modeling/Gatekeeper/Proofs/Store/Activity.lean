import Gatekeeper.Store.Basic

/-!
# Running activities

What the parts of an activity do one after the other, and what each method of a
sound backend does: it notes that it was called, fails if its fail point is armed
on some guard, and otherwise reads or changes the memory.
-/

namespace Gatekeeper

def FailPoint.failure (point : FailPoint) : Failure :=
  .refused (.storage point.name "fail point armed")

namespace Progress

def noting (p : Progress) (event : Event) : Progress := { p with events := p.events ++ [event] }

def withMemory (p : Progress) (memory : Memory) : Progress :=
  { p with backend := { p.backend with memory } }

def behind (p : Progress) (guards : List (Roster FailPoint)) : Progress :=
  { p with backend := { p.backend with guards } }

@[simp] theorem noting_draws (p : Progress) (event : Event) :
    (p.noting event).draws = p.draws := rfl

end Progress

namespace Activity

variable {α β : Type}

/-- What an activity ends with, and how far it has come by then. -/
def outcome (activity : Activity α) (p : Progress) : Except Failure α × Progress :=
  activity.run p

/-! ## Sequences -/

theorem outcome_bind (activity : Activity α) (next : α → Activity β) (p : Progress) :
    (activity >>= next).outcome p =
      match activity.outcome p with
      | (.ok a, p) => (next a).outcome p
      | (.error failure, p) => (.error failure, p) := by
  have unfolded : (activity >>= next).outcome p =
      ExceptT.bindCont next (activity.outcome p).1 (activity.outcome p).2 := rfl
  rw [unfolded]
  obtain ⟨result, p'⟩ := activity.outcome p
  cases result with
  | ok a => rfl
  | error failure => rfl

theorem outcome_bind_of_ok {activity : Activity α} {p p' : Progress} {a : α}
    (ended : activity.outcome p = (.ok a, p')) (next : α → Activity β) :
    (activity >>= next).outcome p = (next a).outcome p' := by
  rw [outcome_bind, ended]

theorem outcome_bind_of_error {activity : Activity α} {p p' : Progress} {failure : Failure}
    (ended : activity.outcome p = (.error failure, p')) (next : α → Activity β) :
    (activity >>= next).outcome p = (.error failure, p') := by
  rw [outcome_bind, ended]

theorem outcome_drawSalt (salts : SaltSource) (length : Nat) (p : Progress) :
    (drawSalt salts length).outcome p =
      (.ok (salts.draw (p.draws + 1) length),
        { p with draws := p.draws + 1 }.noting (.drewSalt (p.draws + 1))) := rfl

theorem outcome_demand (checked : Except Malformation α) (p : Progress) :
    (demand checked).outcome p =
      match checked with
      | .ok value => (.ok value, p)
      | .error malformation => (.error (.malformed malformation), p) := by
  cases checked with
  | ok value => rfl
  | error malformation => rfl

end Activity

/-! ## Methods of a backend -/

namespace Backend

open Activity

theorem outcome_pass (point : FailPoint) (p : Progress) :
    (pass point).outcome p =
      if p.backend.isArmed point then (.error point.failure, p.noting (.invoked point))
      else (.ok (), p.noting (.invoked point)) := by
  have unfolded : (pass point).outcome p =
      (if p.backend.isArmed point = true then refuse (.storage point.name "fail point armed")
        else pure () : Activity Unit).outcome (p.noting (.invoked point)) := rfl
  rw [unfolded]
  split
  · rfl
  · rfl

/-- A method passes the guards before it does anything. -/
theorem outcome_pass_bind {α : Type} (point : FailPoint) (method : Activity α) (p : Progress) :
    (do pass point; method : Activity α).outcome p =
      if p.backend.isArmed point then (.error point.failure, p.noting (.invoked point))
      else method.outcome (p.noting (.invoked point)) := by
  rw [outcome_bind, outcome_pass]
  by_cases armed : p.backend.isArmed point = true
  · rw [if_pos armed, if_pos armed]
  · rw [if_neg armed, if_neg armed]

theorem outcome_getPassword (user : String) (p : Progress) :
    (getPassword user).outcome p =
      if p.backend.isArmed .getPassword then
        (.error FailPoint.getPassword.failure, p.noting (.invoked .getPassword))
      else (.ok (p.backend.memory.users.get? user), p.noting (.invoked .getPassword)) :=
  outcome_pass_bind .getPassword _ p

/-- With defects, a registration is what the defects make of it. -/
theorem outcome_register_defective (user : String) (hash : PasswordHash) {p : Progress}
    {result : Except Refusal Memory}
    (entered : p.backend.defects.register p.backend.memory user hash = result) :
    (register user hash).outcome p =
      if p.backend.isArmed .register then
        (.error FailPoint.register.failure, p.noting (.invoked .register))
      else
        match result with
        | .ok memory => (.ok (), (p.noting (.invoked .register)).withMemory memory)
        | .error refusal => (.error (.refused refusal), p.noting (.invoked .register)) := by
  refine (outcome_pass_bind .register _ p).trans ?_
  by_cases armed : p.backend.isArmed .register = true
  · rw [if_pos armed, if_pos armed]
  · rw [if_neg armed, if_neg armed]
    show (match p.backend.defects.register p.backend.memory user hash with
        | .ok memory => replaceMemory memory
        | .error refusal => refuse refusal : Activity Unit).outcome
          (p.noting (.invoked .register)) = _
    rw [entered]
    cases result with
    | ok memory => rfl
    | error refusal => rfl

theorem outcome_register (user : String) (hash : PasswordHash) {p : Progress}
    (sound : p.backend.defects = .none) :
    (register user hash).outcome p =
      if p.backend.isArmed .register then
        (.error FailPoint.register.failure, p.noting (.invoked .register))
      else
        (.ok (), (p.noting (.invoked .register)).withMemory { p.backend.memory with
          users := p.backend.memory.users.insert user (.hashed hash) }) := by
  rw [outcome_register_defective user hash rfl, sound, Defects.register_none]

theorem outcome_addSession_defective (user : String) (p : Progress) :
    (addSession user).outcome p =
      if p.backend.isArmed .addSession then
        (.error FailPoint.addSession.failure, p.noting (.invoked .addSession))
      else
        (.ok (), (p.noting (.invoked .addSession)).withMemory
          (p.backend.defects.addSession p.backend.memory user)) :=
  outcome_pass_bind .addSession _ p

theorem outcome_removeSession (user : String) {p : Progress} (sound : p.backend.defects = .none) :
    (removeSession user).outcome p =
      if p.backend.isArmed .removeSession then
        (.error FailPoint.removeSession.failure, p.noting (.invoked .removeSession))
      else
        (.ok (), (p.noting (.invoked .removeSession)).withMemory
          { p.backend.memory with sessions := p.backend.memory.sessions.erase user }) := by
  obtain ⟨⟨guards, _, memory⟩, draws, events⟩ := p
  cases sound
  exact outcome_pass_bind .removeSession _ _

theorem outcome_hasSession (user : String) {p : Progress} (sound : p.backend.defects = .none) :
    (hasSession user).outcome p =
      if p.backend.isArmed .hasSession then
        (.error FailPoint.hasSession.failure, p.noting (.invoked .hasSession))
      else
        (.ok (decide (user ∈ p.backend.memory.sessions)), p.noting (.invoked .hasSession)) := by
  obtain ⟨⟨guards, _, memory⟩, draws, events⟩ := p
  cases sound
  exact outcome_pass_bind .hasSession _ _

end Backend

/-! ## Passwords -/

/-- Whether a stored value is the hash of a password, or why it cannot be compared. -/
def Stored.matching (stored : Stored) (password : Password) : Except Failure Bool :=
  match stored with
  | .bare _ => .error .bareValue
  | .hashed hash =>
      match hash.verify password with
      | .ok equal => .ok equal
      | .error fault => .error (.verification fault)

namespace Store

open Activity

theorem outcome_verify (stored : Stored) (password : Password) (p : Progress) :
    (verify stored password).outcome p = (stored.matching password, p) := by
  cases stored with
  | bare text => rfl
  | hashed hash =>
      rw [verify, Stored.matching]
      cases hash.verify password with
      | ok matching => rfl
      | error fault => rfl

theorem outcome_hashPassword (config : Config) (salts : SaltSource) (password : Password)
    (p : Progress) :
    (hashPassword config salts password).outcome p =
      (match password.hash (salts.draw (p.draws + 1) config.saltBytes) config.hashIterations with
        | .ok hash => .ok hash
        | .error fault => .error (.hashing fault),
        { p with draws := p.draws + 1 }.noting (.drewSalt (p.draws + 1))) := by
  rw [hashPassword, outcome_bind, outcome_drawSalt]
  dsimp only
  cases password.hash (salts.draw (p.draws + 1) config.saltBytes) config.hashIterations with
  | ok hash => rfl
  | error fault => rfl

end Store

end Gatekeeper
