import Gatekeeper.Failure
import Gatekeeper.Secret

/-!
# Outcomes

What is compared of a call: its value, or the kind of its refusal.  A failure
that is no refusal has no outcome.
-/

namespace Gatekeeper

/-- A value, or the kind of a refusal. -/
inductive Outcome where
  | value (value : Value)
  | refused (kind : RefusalKind)
deriving DecidableEq, Repr

namespace Outcome

def ofResult : Except Failure Value → Except Failure Outcome
  | .ok v => .ok (value v)
  | .error (.refused refusal) => .ok (refused refusal.kind)
  | .error failure => .error failure

def describe : Outcome → String
  | value v => "ok " ++ v.describe
  | refused kind => "error " ++ kind.name

end Outcome

structure Outcomes where
  actual : Outcome
  expected : Outcome
deriving DecidableEq, Repr

namespace Outcomes

def Agree (o : Outcomes) : Prop := o.actual = o.expected

instance (o : Outcomes) : Decidable o.Agree := inferInstanceAs (Decidable (_ = _))

end Outcomes

end Gatekeeper
