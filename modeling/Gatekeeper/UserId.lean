import Gatekeeper.Codec.Base64
import Gatekeeper.Codec.Utf8
import Gatekeeper.Text.Quoted
import Gatekeeper.Text.Split

/-!
# User identifiers

An identifier is any text that is not empty and does not hold the separator,
which in a credential line stands between the identifier and the password.
-/

namespace Gatekeeper

def separator : Char := ':'

inductive Malformation where
  | emptyIdentifier
  | separatorInIdentifier
  | missingSeparator
  /-- A payload that is no Base64. -/
  | undecodable (fault : Codec.Base64.Fault)
  /-- A payload whose bytes are no text. -/
  | unreadable (fault : Codec.Utf8.Fault)
  /-- The text that was refused, without a reason. -/
  | refused (text : String)
deriving DecidableEq, Repr

namespace Malformation

def reason : Malformation → String
  | emptyIdentifier => "empty identifier"
  | separatorInIdentifier => "identifier must not contain " ++ Text.quote separator.toString
  | missingSeparator => "missing " ++ Text.quote separator.toString ++ " separator"
  | undecodable fault => "undecodable Basic payload: " ++ fault.message
  | unreadable fault => "undecodable Basic payload: " ++ fault.message
  | refused text => text

end Malformation

namespace UserId

def WellFormed (id : String) : Prop := id ≠ "" ∧ separator ∉ id.toList

instance (id : String) : Decidable (WellFormed id) := inferInstanceAs (Decidable (_ ∧ _))

def check (raw : String) : Except Malformation String :=
  if raw = "" then .error .emptyIdentifier
  else if separator ∈ raw.toList then .error .separatorInIdentifier
  else .ok raw

theorem check_of_wellFormed {id : String} (h : WellFormed id) : check id = .ok id := by
  simp [check, h.1, h.2]

theorem check_eq_ok_iff {raw id : String} : check raw = .ok id ↔ WellFormed raw ∧ id = raw := by
  unfold check WellFormed
  split
  · simp_all
  · split
    · simp_all
    · simp_all [eq_comm]

theorem exists_check_eq_error {raw : String} (h : ¬WellFormed raw) :
    ∃ malformation, check raw = .error malformation := by
  cases checked : check raw with
  | error malformation => exact ⟨malformation, rfl⟩
  | ok user => exact absurd (check_eq_ok_iff.mp checked).1 h

end UserId

end Gatekeeper
