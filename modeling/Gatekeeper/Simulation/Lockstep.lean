import Gatekeeper.Rule
import Gatekeeper.Simulation.Operation
import Gatekeeper.Simulation.Oracle
import Gatekeeper.Simulation.Outcome
import Gatekeeper.Store.Basic

/-!
# Lockstep

A store and an oracle that are driven by the same operations.
-/

namespace Gatekeeper

def Oracle.Question.action : Oracle.Question → Action
  | .register user password => .call (.register user ⟨password⟩)
  | .login line => .call (.login (.line line))
  | .logout user => .call (.logout user)
  | .accessSecret user => .call (.accessSecret user)
  | .arm name => .arm name

structure Lockstep where
  store : Store
  oracle : Oracle

namespace Lockstep

/-- A store beside an empty oracle with the same template. -/
def start (store : Store) : Lockstep := ⟨store, { template := store.config.secretTemplate }⟩

/-- The password of a user whom the oracle does not know. -/
def fallbackPassword : String := "hunter2"

def wrongSuffix : String := "-wrong"

/-- The password that a login uses before it is made wrong. -/
def passwordFor (l : Lockstep) (user : String) : String :=
  (l.oracle.passwordOf? user).getD fallbackPassword

def loginLine (user password : String) : String := user ++ separator.toString ++ password

def question (l : Lockstep) : Operation → Oracle.Question
  | .register user password => .register user password
  | .loginRight user => .login (loginLine user (l.passwordFor user))
  | .loginWrong user => .login (loginLine user (l.passwordFor user ++ wrongSuffix))
  | .logout user => .logout user
  | .accessSecret user => .accessSecret user
  | .fail point => .arm point

/-- Ask both sides the same.  The oracle is asked only once the store has an outcome. -/
def pose (l : Lockstep) (question : Oracle.Question) : Except Failure Outcomes × Lockstep :=
  let ended := l.store.act question.action
  match Outcome.ofResult ended.result with
  | .error failure => (.error failure, ⟨ended.store, l.oracle⟩)
  | .ok actual =>
      let (answer, oracle) := l.oracle.ask question
      match Outcome.ofResult answer with
      | .error failure => (.error failure, ⟨ended.store, oracle⟩)
      | .ok expected => (.ok ⟨actual, expected⟩, ⟨ended.store, oracle⟩)

def apply (l : Lockstep) (op : Operation) : Except Failure Outcomes × Lockstep :=
  l.pose (l.question op)

def brokenRules (l : Lockstep) : List String :=
  (Report.ofMemory l.store.backend.memory).failures.map (·.rule)

end Lockstep

end Gatekeeper
