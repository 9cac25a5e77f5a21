import Gatekeeper.Simulation.Replay

/-!
# Criteria

Conditions on lists of operations, to try out shrinking with.
-/

namespace Gatekeeper

inductive Criterion where
  | always
  | never
  /-- An operation occurs at least so often. -/
  | count (op : Operation) (least : Int)
  /-- There are so many operations of a kind. -/
  | kind (word : String) (least : Int)
  /-- There are so many different users. -/
  | users (least : Int)
  | length (least : Int)
  | lengthModulo (modulus residue : Int)
  /-- Some user registers with a password of at least so many characters. -/
  | passwordLength (least : Int)
  /-- Operations occur in this order, perhaps with others between them. -/
  | order (ops : List Operation)
  | negation (criterion : Criterion)
  | all (criteria : List Criterion)
  | any (criteria : List Criterion)
  /-- The replay on a store diverges. -/
  | diverges (fresh : Store)

namespace Criterion

instance : Inhabited Criterion := ⟨always⟩

def passwords (ops : List Operation) : List String :=
  ops.filterMap fun
    | .register _ password => some password
    | _ => none

mutual

def holds (ops : List Operation) : Criterion → Except Failure Bool
  | always => .ok true
  | never => .ok false
  | count op least => .ok (least ≤ (ops.count op : Int))
  | kind word least => .ok (least ≤ (ops.countP (·.kind = word) : Int))
  | users least => .ok (least ≤ ((ops.filterMap Operation.user?).eraseDups.length : Int))
  | length least => .ok (least ≤ (ops.length : Int))
  | lengthModulo modulus residue => .ok (Int.fmod ops.length modulus = residue)
  | passwordLength least =>
      .ok ((passwords ops).any fun password => least ≤ (password.length : Int))
  | order sought => .ok (sought.isSublist ops)
  | negation criterion => (holds ops criterion).map (!·)
  | all criteria => holdsAll ops criteria
  | any criteria => holdsAny ops criteria
  | diverges fresh => Gatekeeper.diverges fresh ops

/-- Whether all criteria are met; the first that is not ends the search. -/
def holdsAll (ops : List Operation) : List Criterion → Except Failure Bool
  | [] => .ok true
  | criterion :: rest =>
      match holds ops criterion with
      | .ok true => holdsAll ops rest
      | result => result

/-- Whether some criterion is met; the first that is ends the search. -/
def holdsAny (ops : List Operation) : List Criterion → Except Failure Bool
  | [] => .ok false
  | criterion :: rest =>
      match holds ops criterion with
      | .ok false => holdsAny ops rest
      | result => result

end

end Criterion

end Gatekeeper
