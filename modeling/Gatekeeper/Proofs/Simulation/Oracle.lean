import Gatekeeper.Proofs.Credentials
import Gatekeeper.Proofs.Store.Activity
import Gatekeeper.Simulation.Oracle

/-!
# What the oracle answers

Every question has one description, with its checks in the order in which they
are made.
-/

namespace Gatekeeper

namespace Oracle

theorem ask_register (o : Oracle) (user password : String) :
    o.ask (.register user password) =
      if UserId.WellFormed user then
        if .getPassword ∈ o.armed then (.error FailPoint.getPassword.failure, o)
        else if user ∈ o.users then (.error (.refused (.alreadyRegistered user)), o)
        else if .register ∈ o.armed then (.error FailPoint.register.failure, o)
        else (.ok .done, { o with users := o.users.insert user password })
      else (.error (.malformed (.refused user)), o) := by
  rw [ask, answer, register, checkIdentifier, touch, touch]
  by_cases wellFormed : UserId.WellFormed user
  · rw [if_pos wellFormed, if_pos wellFormed]
    by_cases asking : .getPassword ∈ o.armed
    · rw [if_pos asking, if_pos asking]
      rfl
    · rw [if_neg asking, if_neg asking]
      by_cases taken : user ∈ o.users
      · simp only [if_pos taken]
        rfl
      · simp only [if_neg taken]
        by_cases entering : .register ∈ o.armed
        · rw [if_pos entering, if_pos entering]
          rfl
        · rw [if_neg entering, if_neg entering]
          rfl
  · rw [if_neg wellFormed, if_neg wellFormed]
    rfl

theorem ask_login (o : Oracle) (line : String) :
    o.ask (.login line) =
      match Text.splitFirst? separator line.toList with
      | none => (.error (.malformed (.refused line)), o)
      | some (user, password) =>
          if UserId.WellFormed (String.ofList user) then
            if .getPassword ∈ o.armed then (.error FailPoint.getPassword.failure, o)
            else if o.passwordOf? (String.ofList user) = some (String.ofList password) then
              if .addSession ∈ o.armed then (.error FailPoint.addSession.failure, o)
              else
                (.ok (.flag true), { o with sessions := o.sessions.insert (String.ofList user) })
            else (.ok (.flag false), o)
          else (.error (.malformed (.refused (String.ofList user))), o) := by
  rw [ask, answer, login, splitLine]
  cases Text.splitFirst? separator line.toList with
  | none => rfl
  | some parts =>
      obtain ⟨user, password⟩ := parts
      simp only [bind, Except.bind]
      rw [checkIdentifier, touch, touch]
      by_cases wellFormed : UserId.WellFormed (String.ofList user)
      · rw [if_pos wellFormed, if_pos wellFormed]
        by_cases asking : .getPassword ∈ o.armed
        · rw [if_pos asking, if_pos asking]
          rfl
        · rw [if_neg asking, if_neg asking]
          by_cases matching : o.passwordOf? (String.ofList user) = some (String.ofList password)
          · simp only [if_pos matching]
            by_cases entering : .addSession ∈ o.armed
            · rw [if_pos entering, if_pos entering]
              rfl
            · rw [if_neg entering, if_neg entering]
              rfl
          · simp only [if_neg matching]
            rfl
      · rw [if_neg wellFormed, if_neg wellFormed]

/-- A plain line that the store refuses is refused by the oracle too. -/
theorem ask_login_of_error (o : Oracle) {line : String} {malformation : Malformation}
    (plain : Credentials.Plain line) (refused : Credentials.parse line = .error malformation) :
    ∃ text, o.ask (.login line) = (.error (.malformed (.refused text)), o) := by
  rw [Credentials.parse_of_plain plain, Credentials.ofPlainLine] at refused
  rw [ask_login]
  cases split : Text.splitFirst? separator line.toList with
  | none => exact ⟨line, rfl⟩
  | some parts =>
      obtain ⟨before, after⟩ := parts
      simp only [split, Credentials.check] at refused
      by_cases wellFormed : UserId.WellFormed (String.ofList before)
      · rw [UserId.check_of_wellFormed wellFormed] at refused
        cases refused
      · exact ⟨String.ofList before, if_neg wellFormed⟩

/-- A plain line that the store reads is read alike by the oracle. -/
theorem ask_login_of_ok (o : Oracle) {line user : String} {password : Password}
    (plain : Credentials.Plain line) (parsed : Credentials.parse line = .ok ⟨user, password⟩) :
    o.ask (.login line) =
      if .getPassword ∈ o.armed then (.error FailPoint.getPassword.failure, o)
      else if o.passwordOf? user = some password.text then
        if .addSession ∈ o.armed then (.error FailPoint.addSession.failure, o)
        else (.ok (.flag true), { o with sessions := o.sessions.insert user })
      else (.ok (.flag false), o) := by
  rw [Credentials.parse_of_plain plain, Credentials.ofPlainLine] at parsed
  rw [ask_login]
  cases split : Text.splitFirst? separator line.toList with
  | none =>
      rw [split] at parsed
      cases parsed
  | some parts =>
      obtain ⟨before, after⟩ := parts
      simp only [split, Credentials.check] at parsed
      cases checked : UserId.check (String.ofList before) with
      | error malformation =>
          rw [checked] at parsed
          cases parsed
      | ok id =>
          rw [checked] at parsed
          cases parsed
          obtain ⟨wellFormed, rfl⟩ := UserId.check_eq_ok_iff.mp checked
          exact if_pos wellFormed

theorem ask_logout (o : Oracle) (user : String) :
    o.ask (.logout user) =
      if UserId.WellFormed user then
        if .removeSession ∈ o.armed then (.error FailPoint.removeSession.failure, o)
        else (.ok .done, { o with sessions := o.sessions.erase user })
      else (.error (.malformed (.refused user)), o) := by
  rw [ask, answer, logout, checkIdentifier, touch]
  by_cases wellFormed : UserId.WellFormed user
  · rw [if_pos wellFormed, if_pos wellFormed]
    by_cases leaving : .removeSession ∈ o.armed
    · rw [if_pos leaving, if_pos leaving]
      rfl
    · rw [if_neg leaving, if_neg leaving]
      rfl
  · rw [if_neg wellFormed, if_neg wellFormed]
    rfl

theorem ask_accessSecret (o : Oracle) (user : String) :
    o.ask (.accessSecret user) =
      if UserId.WellFormed user then
        if .hasSession ∈ o.armed then (.error FailPoint.hasSession.failure, o)
        else if user ∈ o.sessions then
          match Template.render o.template user with
          | .error fault => (.error (.template fault), o)
          | .ok message => (.ok (.secret ⟨user, message⟩), o)
        else (.error (.refused (.notAuthenticated user)), o)
      else (.error (.malformed (.refused user)), o) := by
  rw [ask, answer, accessSecret, checkIdentifier, touch]
  by_cases wellFormed : UserId.WellFormed user
  · rw [if_pos wellFormed, if_pos wellFormed]
    by_cases asking : .hasSession ∈ o.armed
    · rw [if_pos asking, if_pos asking]
      rfl
    · rw [if_neg asking, if_neg asking]
      by_cases live : user ∈ o.sessions
      · simp only [if_pos live]
        cases Template.render o.template user with
        | error fault => rfl
        | ok message => rfl
      · simp only [if_neg live]
        rfl
  · rw [if_neg wellFormed, if_neg wellFormed]
    rfl

theorem ask_arm (o : Oracle) (point : FailPoint) :
    o.ask (.arm point.name) = (.ok .done, { o with armed := o.armed.insert point }) := by
  rw [ask, answer, arm, FailPoint.ofName?_name]

end Oracle

end Gatekeeper
