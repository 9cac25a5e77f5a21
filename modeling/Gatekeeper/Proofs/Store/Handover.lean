import Gatekeeper.Proofs.Credentials
import Gatekeeper.Proofs.Store.Call

/-!
# The forms of a login

A caller hands an identifier and a password over as a line, as a header or as a pair.
Which of them it is makes no difference: the login ends the same way, does the same on
the way and leaves the same behind, also if the identifier is malformed and no text
can be made of it.
-/

namespace Gatekeeper

inductive Handover where
  | line
  | header
  | pair
deriving DecidableEq, Repr

namespace Handover

/-- What is presented, unless no text can be made of it. -/
def present (user password : String) : Handover → Except Malformation Presented
  | line => (Credentials.line user password).map .line
  | header => (Credentials.basicHeader user password).map .line
  | pair => .ok (.pair ⟨user, ⟨password⟩⟩)

theorem present_of_wellFormed {user : String} (formed : UserId.WellFormed user)
    (password : String) (handover : Handover) :
    ∃ presented, handover.present user password = .ok presented ∧
      presented.credentials = .ok ⟨user, ⟨password⟩⟩ := by
  cases handover with
  | line =>
      obtain ⟨text, made, read⟩ := Credentials.exists_line formed password
      refine ⟨.line text, ?_, read⟩
      rw [present, made]
      rfl
  | header =>
      obtain ⟨text, made, read⟩ := Credentials.exists_basicHeader formed password
      refine ⟨.line text, ?_, read⟩
      rw [present, made]
      rfl
  | pair =>
      refine ⟨_, rfl, ?_⟩
      rw [Presented.credentials, Credentials.check, UserId.check_of_wellFormed formed]

end Handover

inductive Intent where
  | register (user password : String)
  | login (handover : Handover) (user password : String)
  | logout (user : String)
  | isLoggedIn (user : String)
  | accessSecret (user : String)
  | arm (name : String)
deriving DecidableEq, Repr

namespace Intent

def action : Intent → Except Malformation Action
  | register user password => .ok (.call (.register user ⟨password⟩))
  | login handover user password =>
      (handover.present user password).map fun presented => .call (.login presented)
  | logout user => .ok (.call (.logout user))
  | isLoggedIn user => .ok (.call (.isLoggedIn user))
  | accessSecret user => .ok (.call (.accessSecret user))
  | arm name => .ok (.arm name)

/-- The action of an intent if a login hands over a pair. -/
def direct : Intent → Action
  | register user password => .call (.register user ⟨password⟩)
  | login _ user password => .call (.login (.pair ⟨user, ⟨password⟩⟩))
  | logout user => .call (.logout user)
  | isLoggedIn user => .call (.isLoggedIn user)
  | accessSecret user => .call (.accessSecret user)
  | arm name => .arm name

end Intent

namespace Store

/-- Do what is intended; a text that cannot be made is refused before the store is used. -/
def attempt (s : Store) (intent : Intent) : Ended Value :=
  match intent.action with
  | .error malformation => ⟨.error (.malformed malformation), s, []⟩
  | .ok action => s.act action

def attempted (s : Store) (intent : Intent) : Store := (s.attempt intent).store

/-- A login is about the credentials that are read, and not about the text they are in. -/
theorem act_login_congr (s : Store) {presented presented' : Presented}
    (same : presented.credentials = presented'.credentials) :
    s.act (.call (.login presented)) = s.act (.call (.login presented')) := by
  have activities : activity s.config s.salts (.login presented) =
      activity s.config s.salts (.login presented') := by
    simp only [activity, login, same]
  rw [act, act, perform_eq, perform_eq, activities]

theorem attempt_login (s : Store) (handover : Handover) (user password : String) :
    s.attempt (.login handover user password) =
      s.act (.call (.login (.pair ⟨user, ⟨password⟩⟩))) := by
  by_cases formed : UserId.WellFormed user
  · obtain ⟨presented, made, read⟩ := handover.present_of_wellFormed formed password
    obtain ⟨pair, same, read'⟩ := Handover.pair.present_of_wellFormed formed password
    cases same
    rw [attempt, Intent.action, made]
    exact s.act_login_congr (read.trans read'.symm)
  · obtain ⟨malformation, refused⟩ := UserId.exists_check_eq_error formed
    have about : (Call.login (.pair ⟨user, ⟨password⟩⟩)).about = .error malformation := by
      simp only [Call.about, Presented.credentials, Credentials.check, refused]
    obtain ⟨noLine, noHeader⟩ := Credentials.line_of_ill refused password
    cases handover with
    | line =>
        rw [attempt, Intent.action, Handover.present, noLine, s.act_of_malformed about]
        rfl
    | header =>
        rw [attempt, Intent.action, Handover.present, noHeader, s.act_of_malformed about]
        rfl
    | pair => rfl

/-- In whatever form a login is handed over, it might as well be a pair. -/
theorem attempt_eq_act (s : Store) (intent : Intent) : s.attempt intent = s.act intent.direct := by
  cases intent with
  | login handover user password => exact s.attempt_login handover user password
  | _ => rfl

end Store

end Gatekeeper
