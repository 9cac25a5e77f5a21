import Gatekeeper.Backend.Defect

/-!
# Backends

A backend is a memory behind any number of guards.  A guard holds the fail
points that are armed on it; a method that is armed on any of them fails before
it reaches the memory.
-/

namespace Gatekeeper

/-- A memory, its planted defects and the armed fail points of its guards, the outermost first. -/
structure Backend where
  guards : List (Roster FailPoint) := []
  defects : Defects := .none
  memory : Memory := .empty
deriving DecidableEq

namespace Backend

def bare : Backend := {}

def guarded : Backend := { guards := [.empty] }

instance : Inhabited Backend := ⟨bare⟩

def isArmed (b : Backend) (point : FailPoint) : Bool := b.guards.any fun guard => point ∈ guard

/-- What is armed on the outermost guard, if there is a guard. -/
def armed? (b : Backend) : Option (Roster FailPoint) := b.guards.head?

def sortedNames (points : Roster FailPoint) : List String :=
  (points.members.map FailPoint.name).mergeSort fun x y => x ≤ y

/-- How a backend is shown: its guards from the outside in, and the counts of its memory. -/
def describe (b : Backend) : String :=
  b.guards.foldr
    (fun guard inner =>
      "FailingDb(" ++ inner ++ ", armed=" ++ Text.quoteList (sortedNames guard) ++ ")")
    b.memory.describe

/-- Change what is armed on the guard at a depth; `none` if there is no such guard. -/
def updateGuard? (b : Backend) (depth : Nat) (change : Roster FailPoint → Roster FailPoint) :
    Option Backend :=
  if depth < b.guards.length then some { b with guards := b.guards.modify depth change } else none

end Backend

end Gatekeeper
