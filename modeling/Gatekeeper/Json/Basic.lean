/-!
# JSON values

Values as they come from outside: request bodies, settings and recorded scripts.  A
number keeps the form it was written in, because an integer and a decimal
fraction of the same value are not accepted in the same places.  Half of a surrogate
pair is no character, but it may stand in a text by itself; such a text is kept by its
code points.
-/

namespace Gatekeeper

/-- A JSON value.  The fields of an object are in the order of the text, repetitions included. -/
inductive Json where
  | null
  | bool (b : Bool)
  | integer (n : Int)
  /-- A number written with a fraction or an exponent: `mantissa * 10 ^ exponent`. -/
  | decimal (mantissa exponent : Int)
  /-- Not a number, or an infinity. -/
  | nonFinite
  | text (s : String)
  /-- A text in which half of a surrogate pair stands by itself. -/
  | unpaired (codes : List Nat)
  | array (items : List Json)
  | object (fields : List (String × Json))
  /-- An object with further fields, in whose names half of a surrogate pair stands by itself. -/
  | unpairedObject (fields : List (String × Json)) (others : List (List Nat × Json))
deriving Repr, Inhabited

namespace Json

def codes (s : String) : List Nat := s.toList.map Char.toNat

/-- The text of code points that are all characters. -/
def ofCodes? (codes : List Nat) : Option String :=
  if codes.all fun n => n.isValidChar then some (String.ofList (codes.map Char.ofNat)) else none

def ofCodes (codes : List Nat) : Json := (ofCodes? codes).elim (unpaired codes) text

/-- The object of fields whose names are given by their code points. -/
def ofFields (fields : List (List Nat × Json)) : Json :=
  let named := fields.filterMap fun (name, value) => (ofCodes? name).map (·, value)
  match fields.filter fun (name, _) => (ofCodes? name).isNone with
  | [] => object named
  | others => unpairedObject named others

/-- The value of a field; of repeated fields the last counts. -/
def field? : Json → String → Option Json
  | object fields, name | unpairedObject fields _, name =>
      (fields.reverse.find? (·.1 = name)).map (·.2)
  | _, _ => none

def text? : Json → Option String
  | text s => some s
  | _ => none

def items? : Json → Option (List Json)
  | array items => some items
  | _ => none

end Json

end Gatekeeper
