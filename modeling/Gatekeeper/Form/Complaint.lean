import Gatekeeper.Json.Basic

/-!
# Complaints about a form

What can be wrong with a value that comes from outside, and where in the form it
stands.  A form is checked field by field and all complaints are kept.
-/

namespace Gatekeeper

namespace Form

inductive Cause where
  | missing
  | notText
  /-- Half of a surrogate pair stands by itself in the text. -/
  | unpairedText
  | emptyText
  | notInteger
  | unreadableInteger
  | fractionalInteger
  | tooLargeInteger
  | infiniteInteger
  | below (least : Nat)
  | notBoolean
  | unreadableBoolean
  | rejected (reason : String)
  | notRecord (name : String)
  | notObject
  | invalidJson
deriving DecidableEq, Repr

namespace Cause

def code : Cause → String
  | missing => "missing"
  | notText => "string_type"
  | unpairedText => "string_unicode"
  | emptyText => "string_too_short"
  | notInteger => "int_type"
  | unreadableInteger => "int_parsing"
  | fractionalInteger => "int_from_float"
  | tooLargeInteger => "int_parsing_size"
  | infiniteInteger => "finite_number"
  | below _ => "greater_than_equal"
  | notBoolean => "bool_type"
  | unreadableBoolean => "bool_parsing"
  | rejected _ => "value_error"
  | notRecord _ => "model_type"
  | notObject => "model_attributes_type"
  | invalidJson => "json_invalid"

def message : Cause → String
  | missing => "Field required"
  | notText => "Input should be a valid string"
  | unpairedText => "Input should be a valid string, unable to parse raw data as a unicode string"
  | emptyText => "String should have at least 1 character"
  | notInteger => "Input should be a valid integer"
  | unreadableInteger => "Input should be a valid integer, unable to parse string as an integer"
  | fractionalInteger => "Input should be a valid integer, got a number with a fractional part"
  | tooLargeInteger => "Unable to parse input string as an integer, exceeded maximum size"
  | infiniteInteger => "Input should be a finite number"
  | below least => "Input should be greater than or equal to " ++ toString least
  | notBoolean => "Input should be a valid boolean"
  | unreadableBoolean => "Input should be a valid boolean, unable to interpret input"
  | rejected reason => "Value error, " ++ reason
  | notRecord name => "Input should be a valid dictionary or instance of " ++ name
  | notObject => "Input should be a valid dictionary or object to extract fields from"
  | invalidJson => "JSON decode error"

end Cause

/-- A cause and the place of the value, from the outermost name inwards. -/
structure Complaint where
  place : List String
  cause : Cause
deriving DecidableEq, Repr

namespace Complaint

/-- The same with the place moved into an outer one. -/
def within (outer : String) (complaint : Complaint) : Complaint :=
  { complaint with place := outer :: complaint.place }

/-- The value in a form that a complaint is about; of an absent field it is the whole form. -/
def subject (complaint : Complaint) (form : Json) : Json :=
  match complaint.cause, complaint.place with
  | .missing, _ => form
  | _, name :: _ => (form.field? name).getD form
  | _, [] => form

def toJson (complaint : Complaint) : Json :=
  .object [("type", .text complaint.cause.code), ("loc", .array (complaint.place.map .text)),
    ("msg", .text complaint.cause.message)]

end Complaint

end Form

/-- A checked value, or everything there is to complain about. -/
abbrev Checked (α : Type) := Except (List Form.Complaint) α

namespace Checked

variable {α : Type}

/-- The complaints, none if the value is good. -/
def complaints : Checked α → List Form.Complaint
  | .ok _ => []
  | .error complaints => complaints

end Checked

end Gatekeeper
