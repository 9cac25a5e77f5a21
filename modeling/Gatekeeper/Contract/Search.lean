import Gatekeeper.Contract.Finding

/-!
# The search for broken contracts

Experiments with well-formed and malformed inputs.  Each prepares a store, makes
calls on it and judges them.
-/

namespace Gatekeeper

namespace Contract

def preparedUser : String := "alice"

def preparedPassword : String := "pw1"

structure Experiment where
  /-- Whether the prepared user is registered. -/
  registered : Bool
  /-- Whether the prepared user is logged in before the calls. -/
  loggedIn : Bool
  subjects : List Subject
  /-- The line of a login that must not close the session of the prepared user. -/
  keepsSession : Option String := none
deriving DecidableEq, Repr

namespace Experiment

def insist (s : Store) (call : Call) : Except Failure Store :=
  match (s.perform call).result with
  | .ok _ => .ok (s.perform call).store
  | .error failure => .error failure

def prepare (e : Experiment) (s : Store) : Except Failure Store := do
  let s ← if e.registered then insist s (.register preparedUser ⟨preparedPassword⟩) else pure s
  if e.loggedIn then
    insist s (.login (.line (preparedUser ++ separator.toString ++ preparedPassword)))
  else
    pure s

/-- Check that the session of the prepared user is still open. -/
def checkSession (line : String) (s : Store) : Except Failure Tally := do
  match (s.run (Backend.hasSession preparedUser)).result with
  | .ok true => return ⟨[], 1⟩
  | .ok false => return ⟨[⟨.propertyViolation, .login, [line], "alice still logged in",
      "session closed", "Login closed an existing session"⟩], 1⟩
  | .error failure => throw failure

/-- Make calls one after the other and judge them. -/
def checkAll (s : Store) : List Subject → Except Failure (Tally × Store)
  | [] => .ok ({}, s)
  | subject :: rest => do
      let (tally, s) ← subject.check s
      let (others, s) ← checkAll s rest
      return (tally.add others, s)

def run (fresh : Store) (e : Experiment) : Except Failure Tally := do
  let s ← e.prepare fresh
  let (tally, s) ← checkAll s e.subjects
  match e.keepsSession with
  | some line => return tally.add (← checkSession line s)
  | none => return tally

end Experiment

structure Search where
  fresh : Store := { config := .simulation }
  users : List String :=
    ["alice", "bob", "Ünïcødé", String.ofList (List.replicate 64 'a'), "", "a:b", ":", "x:"]
  passwords : List String := ["pw1", "", "correct horse", "p:w", "큓\\↑¦⁞"]

namespace Search

def lines : List String :=
  ["alice:pw1", "alice:wrong", "alice:", "bob:pw1", "alicepw1", ":pw1", "", "alice:pw1:extra"]

/-- Registrations of every user with every password, of a free and of a taken identifier. -/
def registrations (search : Search) : List Experiment :=
  search.users.flatMap fun user => search.passwords.flatMap fun password =>
    [false, true].map fun registered => ⟨registered, false, [.register user password], none⟩

def logins : List Experiment :=
  lines.flatMap fun line => [false, true].map fun loggedIn =>
    let subject := Subject.ofLine line
    let watched := loggedIn && subject.user = preparedUser
    ⟨true, loggedIn, [subject], if watched then some line else none⟩

/-- Accesses to secrets and repeated logouts, with and without a session before. -/
def logoutsAndAccesses (search : Search) : List Experiment :=
  search.users.flatMap fun user => [false, true].flatMap fun loggedIn =>
    [⟨true, loggedIn, [.accessSecret user], none⟩,
      ⟨true, loggedIn, [.logout user, .logout user], none⟩]

def runAll (search : Search) : List Experiment → Except Failure Tally
  | [] => .ok {}
  | experiment :: rest => do
      let tally ← experiment.run search.fresh
      return tally.add (← runAll search rest)

def run (search : Search) : Except Failure Tally :=
  search.runAll (search.registrations ++ logins ++ search.logoutsAndAccesses)

end Search

namespace Tally

def passed (t : Tally) : Bool := t.found.isEmpty

def entry (number : Nat) (f : Finding) : List String := [
  "  [" ++ toString number ++ "] " ++ f.category.name ++ " / " ++ f.operation.name,
  "      Inputs:   " ++ Text.quoteTuple f.inputs,
  "      Expected: " ++ f.expected,
  "      Actual:   " ++ f.actual,
  "      " ++ f.description]

def summary (t : Tally) : String :=
  "\n".intercalate
    (["Counterexample Search Report",
      "========================================",
      "Total checks: " ++ toString t.checks,
      "Counterexamples found: " ++ toString t.found.length]
      ++ if t.found.isEmpty then ["\nNo counterexamples found -- all checks passed."]
        else "" :: (t.found.zipIdx 1).flatMap fun (f, number) => entry number f)

end Tally

end Contract

end Gatekeeper
