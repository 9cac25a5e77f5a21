import Gatekeeper.Form.Complaint
import Gatekeeper.Json.Decimal
import Gatekeeper.Text.LooseInteger

/-!
# Fields of a form

Readers for the kinds of field: texts, integers with a least value, and
booleans.  An integer may also be written as a text or as a number without a
fraction, and a boolean as a word or as zero or one.  A text in which half of a
surrogate pair stands by itself is refused by every reader that looks into it; what
takes any text at all is only used on forms that have no such texts.
-/

namespace Gatekeeper

namespace Form

def text : Json → Except Cause String
  | .text s => .ok s
  | .unpaired _ => .error .unpairedText
  | _ => .error .notText

def nonemptyText : Json → Except Cause String
  | .text s => if s.isEmpty then .error .emptyText else .ok s
  | .unpaired _ => .error .unpairedText
  | _ => .error .notText

/-- The integer that a floating-point number is, within 64 bits. -/
def integerOfFloat (x : Float) : Except Cause Int :=
  if x.isNaN || x.isInf then .error .infiniteInteger
  else if x.floor != x then .error .fractionalInteger
  else if x.abs < 9223372036854775808.0 then .ok x.toInt64.toInt
  else .error .tooLargeInteger

/-- An integer, or something that stands for one. -/
def anyInteger : Json → Except Cause Int
  | .integer n => .ok n
  | .decimal mantissa exponent => integerOfFloat (Json.Decimal.nearest mantissa exponent)
  | .nonFinite => .error .infiniteInteger
  | .bool b => .ok (if b then 1 else 0)
  | .text s =>
      match Text.readLooseInteger s with
      | .ok n => .ok n
      | .error (.tooLong _) => .error .tooLargeInteger
      | .error (.notLiteral _) => .error .unreadableInteger
  | .unpaired _ => .error .unpairedText
  | _ => .error .notInteger

def natural (least : Nat) (value : Json) : Except Cause { n : Nat // least ≤ n } :=
  match anyInteger value with
  | .error cause => .error cause
  | .ok n => if h : least ≤ n.toNat ∧ 0 ≤ n then .ok ⟨n.toNat, h.1⟩ else .error (.below least)

def trueWords : List String := ["1", "true", "t", "yes", "y", "on"]

def falseWords : List String := ["0", "false", "f", "no", "n", "off"]

/-- A text in lower case as far as it is ASCII. -/
def asciiLower (s : String) : String := String.ofList (s.toList.map Char.toLower)

def booleanOfInteger (n : Int) : Except Cause Bool :=
  if n = 1 then .ok true else if n = 0 then .ok false else .error .unreadableBoolean

/-- A boolean, or something that stands for one. -/
def boolean : Json → Except Cause Bool
  | .bool b => .ok b
  | .integer n =>
      if Int64.minValue.toInt ≤ n ∧ n ≤ Int64.maxValue.toInt then booleanOfInteger n
      else .error .notBoolean
  | .decimal mantissa exponent =>
      match integerOfFloat (Json.Decimal.nearest mantissa exponent) with
      | .ok n => booleanOfInteger n
      | .error _ => .error .notBoolean
  | .text s =>
      let word := asciiLower s
      if trueWords.contains word then .ok true
      else if falseWords.contains word then .ok false
      else .error .unreadableBoolean
  | .unpaired _ => .error .unpairedText
  | _ => .error .notBoolean

/-- The field of a name; a default stands in for one that is absent. -/
def field {α : Type} (value? : String → Option Json) (name : String) (default? : Option α)
    (reader : Json → Except Cause α) : Checked α :=
  match value? name, default? with
  | none, some value => .ok value
  | none, none => .error [⟨[name], .missing⟩]
  | some json, _ =>
      match reader json with
      | .ok value => .ok value
      | .error cause => .error [⟨[name], cause⟩]

/-- A form that has to be an object; `refusal` is the complaint about anything else. -/
def ofObject {α : Type} (refusal : Cause) (reader : (String → Option Json) → Checked α) :
    Json → Checked α
  | .object fields | .unpairedObject fields _ => reader (Json.object fields).field?
  | _ => .error [⟨[], refusal⟩]

end Form

end Gatekeeper
