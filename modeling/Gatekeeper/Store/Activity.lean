import Gatekeeper.Backend.Basic
import Gatekeeper.Log

/-!
# Activities

What a call of the store is made of: methods of the backend, draws of salts and
records of the log.  An activity stops at its first failure; what it has done to
the backend by then stays done.
-/

namespace Gatekeeper

/-- What an activity did, besides changing the backend. -/
inductive Event where
  /-- A method of the backend was called; it may have failed on its fail point. -/
  | invoked (point : FailPoint)
  /-- The salt of a number was drawn. -/
  | drewSalt (number : Nat)
  | logged (record : Log.Record)
deriving DecidableEq, Repr

namespace Event

def record? : Event → Option Log.Record
  | logged record => some record
  | _ => none

def point? : Event → Option FailPoint
  | invoked point => some point
  | _ => none

end Event

structure Progress where
  backend : Backend
  /-- How many salts were drawn so far. -/
  draws : Nat
  events : List Event := []
deriving DecidableEq

/-- A computation over a backend that may fail. -/
abbrev Activity (α : Type) := ExceptT Failure (StateM Progress) α

namespace Activity

def note (event : Event) : Activity Unit :=
  modify fun p => { p with events := p.events ++ [event] }

def log (level : Log.Level) (logger message : String) : Activity Unit :=
  note (.logged ⟨level, logger, message⟩)

def stop {α : Type} (failure : Failure) : Activity α := throw failure

def refuse {α : Type} (refusal : Refusal) : Activity α := stop (.refused refusal)

def drawSalt (salts : SaltSource) (length : Nat) : Activity (List UInt8) := do
  let number := (← get).draws + 1
  modify fun p => { p with draws := number }
  note (.drewSalt number)
  return salts.draw number length

def demand {α : Type} : Except Malformation α → Activity α
  | .ok value => return value
  | .error malformation => refuse (.malformed malformation)

end Activity

end Gatekeeper
