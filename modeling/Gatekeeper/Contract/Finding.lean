import Gatekeeper.Contract.Basic
import Gatekeeper.Rule

/-!
# Findings

A single call is made and judged against its contract and the rules.
-/

namespace Gatekeeper

namespace Contract

inductive Category where
  | unexpectedError
  | wrongError
  | missingError
  | postconditionViolation
  | invariantViolation
  | propertyViolation
deriving DecidableEq, Repr

namespace Category

def name : Category → String
  | unexpectedError => "unexpected_error"
  | wrongError => "wrong_error"
  | missingError => "missing_error"
  | postconditionViolation => "postcondition_violation"
  | invariantViolation => "invariant_violation"
  | propertyViolation => "property_violation"

end Category

/-- Something that a call did and should not have done. -/
structure Finding where
  category : Category
  operation : Operation
  inputs : List String
  expected : String
  actual : String
  description : String
deriving DecidableEq, Repr

structure Tally where
  found : List Finding := []
  checks : Nat := 0
deriving DecidableEq, Repr

namespace Tally

def add (t u : Tally) : Tally := ⟨t.found ++ u.found, t.checks + u.checks⟩

end Tally

namespace Subject

def finding (subject : Subject) (category : Category) (expected actual description : String) :
    Finding :=
  ⟨category, subject.operation, subject.inputs, expected, actual, description⟩

/-- Judge a refusal, given the condition that holds before the call. -/
def judgeRefusal (subject : Subject) (condition? : Option Condition) (refusal : Refusal) :
    List Finding :=
  match condition? with
  | none =>
      [subject.finding .unexpectedError "success" (refusal.kind.name ++ ": " ++ refusal.message)
        (subject.operation.name ++ " raised for valid input")]
  | some condition =>
      if refusal.kind = condition.kind then []
      else [subject.finding .wrongError condition.kind.name refusal.kind.name
        ("Wrong exception for '" ++ condition.name ++ "'")]

/-- Judge a value that no condition forbids, by the memory after the call. -/
def judgeMemory (subject : Subject) (m : Memory) (value : Value) : List Finding :=
  ((subject.operation.postconditions.filter fun post =>
      decide (¬ post.Holds m subject value)).map fun post =>
    subject.finding .postconditionViolation post.description ("result=" ++ value.describe)
      ("Postcondition '" ++ post.name ++ "' violated"))
  ++ (Report.ofMemory m).failures.map fun verdict =>
    subject.finding .invariantViolation verdict.description "rule failed"
      ("Rule " ++ verdict.rule ++ " broken")

/-- Judge a value, given the condition that holds before the call. -/
def judgeValue (subject : Subject) (condition? : Option Condition) (m : Memory) (value : Value) :
    List Finding :=
  match condition? with
  | some condition =>
      [subject.finding .missingError condition.kind.name ("result=" ++ value.describe)
        ("Error '" ++ condition.name ++ "' should have triggered")]
  | none => subject.judgeMemory m value

/-- Make a call and judge it.  A failure that is no refusal cannot be judged. -/
def check (subject : Subject) (s : Store) : Except Failure (Tally × Store) :=
  let condition? := firstTriggered s.backend.memory subject
  let ended := s.perform subject.call
  match ended.result with
  | .ok value =>
      .ok (⟨subject.judgeValue condition? ended.store.backend.memory value, 1⟩, ended.store)
  | .error (.refused refusal) => .ok (⟨subject.judgeRefusal condition? refusal, 1⟩, ended.store)
  | .error failure => .error failure

end Subject

end Contract

end Gatekeeper
