import Gatekeeper.Json.Basic
import Gatekeeper.Json.Decimal

/-!
# Values that can be shown

A value from outside is shown to its sender when it is refused.  It takes a call for each
value inside another, and the process has room for so many; numbers have to be finite,
and half of a surrogate pair cannot be encoded.  Of repeated fields the last alone is
part of the value, and private fields are left out.
-/

namespace Gatekeeper

namespace Json

inductive Obstacle where
  | tooDeep
  | notFinite
  | unpaired
deriving DecidableEq, Repr

namespace Obstacle

/-- The obstacles in the order in which they are met. -/
def all : List Obstacle := [tooDeep, notFinite, unpaired]

def first? (met : List Obstacle) : Option Obstacle := all.find? (met.contains ·)

/-- What is said of an obstacle; where in the response it stands is left out. -/
def message : Obstacle → String
  | tooDeep => "maximum recursion depth exceeded"
  | notFinite => "Out of range float values are not JSON compliant"
  | unpaired => "surrogates not allowed"

end Obstacle

/-- The beginning of the names of private fields. -/
def privateMark : String := "_sa"

/-- Whether a field of this name is left out when a value is shown. -/
def isPrivate (name : List Nat) : Bool := (codes privateMark).isPrefixOf name

/-- What is met with room for so many calls, given what is met with room for one call less. -/
def within (room : Nat) (inside : Nat → List Obstacle) : List Obstacle :=
  match room with
  | 0 => [.tooDeep]
  | room + 1 => inside room

mutual

/-- The obstacles to showing a value with room for so many calls inside each other. -/
def obstacles (room : Nat) : Json → List Obstacle
  | nonFinite => within room fun _ => [.notFinite]
  | decimal mantissa exponent =>
      within room fun _ => if Decimal.isFinite mantissa exponent then [] else [.notFinite]
  | unpaired _ => within room fun _ => [.unpaired]
  | array items => within room fun room => obstaclesOfItems room items
  | object fields => within room fun room => obstaclesOfFields room fields
  | unpairedObject fields others =>
      within room fun room => obstaclesOfFields room fields ++ obstaclesOfOthers room others
  | _ => within room fun _ => []

def obstaclesOfItems (room : Nat) : List Json → List Obstacle
  | [] => []
  | item :: rest => obstacles room item ++ obstaclesOfItems room rest

def obstaclesOfFields (room : Nat) : List (String × Json) → List Obstacle
  | [] => []
  | (name, value) :: rest =>
      (if isPrivate (codes name) || rest.any (·.1 = name) then [] else obstacles room value)
        ++ obstaclesOfFields room rest

/-- The obstacles of fields whose names are obstacles themselves. -/
def obstaclesOfOthers (room : Nat) : List (List Nat × Json) → List Obstacle
  | [] => []
  | (name, value) :: rest =>
      (if isPrivate name || rest.any (·.1 = name) then [] else .unpaired :: obstacles room value)
        ++ obstaclesOfOthers room rest

end

def isShowable (room : Nat) (value : Json) : Bool := (value.obstacles room).isEmpty

end Json

end Gatekeeper
