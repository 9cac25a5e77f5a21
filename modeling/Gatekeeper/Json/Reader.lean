import Gatekeeper.Json.Token

/-!
# Reading JSON

A reader of tokens that keeps the open arrays and objects on a stack, so that
one token is one step.  The first token that does not fit decides what is wrong.  How many arrays
and objects may be open at once is up to the process that reads.
-/

namespace Gatekeeper

namespace Json

inductive Fault where
  | malformed
  /-- An integer with more digits than are converted stands where a value is due. -/
  | tooManyDigits
  | tooDeep
deriving DecidableEq, Repr

/-- An array or object that is not closed yet; what it holds is kept reversed. -/
inductive Open where
  | array (items : List Json)
  | object (fields : List (List Nat × Json))
  | member (fields : List (List Nat × Json)) (name : List Nat)

/-- What may come next. -/
inductive Due where
  | value (stack : List Open) (closable : Bool)
  | name (stack : List Open) (fields : List (List Nat × Json)) (closable : Bool)
  | colon (stack : List Open) (fields : List (List Nat × Json)) (name : List Nat)
  | separator (stack : List Open)
  | finished (value : Json)

namespace Due

def complete (v : Json) : List Open → Except Fault Due
  | [] => .ok (.finished v)
  | .array items :: stack => .ok (.separator (.array (v :: items) :: stack))
  | .member fields key :: stack => .ok (.separator (.object ((key, v) :: fields) :: stack))
  | .object _ :: _ => .error .malformed

/-- Open an array or object, if there is room for one more. -/
def deeper (room : Nat) (next : Due) (stack : List Open) : Except Fault Due :=
  if stack.length < room then .ok next else .error .tooDeep

def step (room : Nat) : Due → Token → Except Fault Due
  | .value stack _, .atom v => complete v stack
  | .value _ _, .longInteger => .error .tooManyDigits
  | .value stack _, .openArray => deeper room (.value (.array [] :: stack) true) stack
  | .value stack _, .openObject => deeper room (.name stack [] true) stack
  | .value (.array items :: stack) true, .closeArray => complete (.array items.reverse) stack
  | .name stack fields true, .closeObject => complete (ofFields fields.reverse) stack
  | .name stack fields _, .atom (.text key) => .ok (.colon stack fields (codes key))
  | .name stack fields _, .atom (.unpaired key) => .ok (.colon stack fields key)
  | .colon stack fields key, .colon => .ok (.value (.member fields key :: stack) false)
  | .separator (.array items :: stack), .comma => .ok (.value (.array items :: stack) false)
  | .separator (.array items :: stack), .closeArray => complete (.array items.reverse) stack
  | .separator (.object fields :: stack), .comma => .ok (.name stack fields false)
  | .separator (.object fields :: stack), .closeObject => complete (ofFields fields.reverse) stack
  | _, _ => .error .malformed

end Due

/-- Read code points with room for so many open arrays and objects. -/
def readWithin (room : Nat) (codes : List Nat) : Except Fault Json :=
  match (Token.list codes).foldlM (Due.step room) (.value [] false) with
  | .ok (.finished value) => .ok value
  | .ok _ => .error .malformed
  | .error fault => .error fault

/-- Read a text with room for all brackets that it may have. -/
def read (cs : List Char) : Except Fault Json := readWithin cs.length (cs.map Char.toNat)

end Json

end Gatekeeper
