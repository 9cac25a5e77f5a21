import Gatekeeper.Backend.Memory
import Gatekeeper.UserId

/-!
# Rules

What has to hold of the memory of a store at all times, and reports on which
rules hold.
-/

namespace Gatekeeper

inductive Rule where
  | sessionsRegistered
  | passwordsHashed
  | hashesUnique
  | identifiersWellFormed
deriving DecidableEq, Repr

namespace Rule

def all : List Rule := [sessionsRegistered, passwordsHashed, hashesUnique, identifiersWellFormed]

def id : Rule → String
  | sessionsRegistered => "STORE-SESSION-SUBSET"
  | passwordsHashed => "STORE-ENCODED-TYPE"
  | hashesUnique => "STORE-ENCODED-UNIQUE"
  | identifiersWellFormed => "STORE-USER-ID-FMT"

def name : Rule → String
  | sessionsRegistered => "sessions_are_registered"
  | passwordsHashed => "passwords_are_encoded"
  | hashesUnique => "encodings_are_unique"
  | identifiersWellFormed => "user_ids_well_formed"

def description : Rule → String
  | sessionsRegistered => "Every logged-in user must be registered"
  | passwordsHashed => "Only encoded passwords may be stored"
  | hashesUnique => "No two users may share one encoded password"
  | identifiersWellFormed => "Stored user ids must be non-empty and colon-free"

def Holds (m : Memory) : Rule → Prop
  | sessionsRegistered => ∀ user ∈ m.sessions.members, user ∈ m.users
  | passwordsHashed => ∀ value ∈ m.users.values, ∃ hash, value = Stored.hashed hash
  | hashesUnique => m.users.values.Nodup
  | identifiersWellFormed => ∀ user ∈ m.users.keys, UserId.WellFormed user

instance (value : Stored) : Decidable (∃ hash, value = Stored.hashed hash) :=
  match value with
  | .hashed hash => isTrue ⟨hash, rfl⟩
  | .bare _ => isFalse fun ⟨_, h⟩ => nomatch h

instance (m : Memory) (rule : Rule) : Decidable (rule.Holds m) := by
  cases rule <;> unfold Holds <;> infer_instance

end Rule

structure Verdict where
  rule : String
  name : String
  passed : Bool
  description : String
deriving DecidableEq, Repr

structure Report where
  verdicts : List Verdict
deriving DecidableEq, Repr

namespace Report

def ofMemory (m : Memory) : Report :=
  ⟨Rule.all.map fun rule => ⟨rule.id, rule.name, decide (rule.Holds m), rule.description⟩⟩

def passed (r : Report) : Bool := r.verdicts.all (·.passed)

/-- The verdicts on the rules that are broken. -/
def failures (r : Report) : List Verdict := r.verdicts.filter (!·.passed)

def summary (r : Report) : String :=
  let total := toString r.verdicts.length
  match r.failures with
  | [] => "All " ++ total ++ " rules passed"
  | failures =>
      "\n".intercalate
        ((toString failures.length ++ "/" ++ total ++ " rules failed:")
          :: failures.map fun v => "  [" ++ v.rule ++ "] " ++ v.name ++ ": " ++ v.description)

theorem passed_ofMemory {m : Memory} :
    (ofMemory m).passed = true ↔ ∀ rule : Rule, rule.Holds m := by
  simp only [passed, ofMemory, List.all_map, List.all_eq_true, Function.comp, decide_eq_true_eq]
  exact ⟨fun h rule => h rule (by cases rule <;> simp [Rule.all]), fun h rule _ => h rule⟩

end Report

end Gatekeeper
