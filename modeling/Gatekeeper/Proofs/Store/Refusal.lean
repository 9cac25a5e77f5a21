import Gatekeeper.Proofs.Store.Sound
import Gatekeeper.Simulation.Outcome

/-!
# What a call can fail with

A call returns or is refused, unless hashing refuses the iteration count, a stored
value cannot be compared with a password, or the template cannot be filled in.  The
stored values of a sound store can all be compared, so its calls only ever fail on
settings that were not checked.
-/

namespace Gatekeeper

/-- A value or a refusal, and no other failure. -/
def HasOutcome (result : Except Failure Value) : Prop :=
  ∃ outcome, Outcome.ofResult result = .ok outcome

theorem hasOutcome_ok (value : Value) : HasOutcome (.ok value) := ⟨_, rfl⟩

theorem hasOutcome_refused (refusal : Refusal) : HasOutcome (.error (.refused refusal)) := ⟨_, rfl⟩

theorem hasOutcome_iff {result : Except Failure Value} :
    HasOutcome result ↔
      ∀ failure, result = .error failure → ∃ refusal, failure = .refused refusal := by
  constructor
  · rintro ⟨outcome, same⟩ failure rfl
    cases failure with
    | refused refusal => exact ⟨refusal, rfl⟩
    | _ => cases same
  · intro only
    cases result with
    | ok value => exact hasOutcome_ok value
    | error failure =>
        obtain ⟨refusal, rfl⟩ := only failure rfl
        exact hasOutcome_refused refusal

theorem not_hasOutcome_of_ne {failure : Failure} (other : ∀ refusal, failure ≠ .refused refusal) :
    ¬HasOutcome (.error failure) := by
  intro ended
  obtain ⟨refusal, same⟩ := hasOutcome_iff.mp ended failure rfl
  exact other refusal same

namespace Directory

theorem mem_entries_of_get? {α : Type} {d : Directory α} {key : String} {value : α}
    (found : d.get? key = some value) : (key, value) ∈ d.entries := by
  have search : ∀ entries : List (String × α), find? key entries = some value →
      (key, value) ∈ entries := by
    intro entries found
    induction entries with
    | nil => cases found
    | cons entry rest ih =>
        obtain ⟨k, v⟩ := entry
        by_cases same : k = key
        · simp_all [find?]
        · simp_all [find?]
  exact search d.entries found

theorem mem_values_of_get? {α : Type} {d : Directory α} {key : String} {value : α}
    (found : d.get? key = some value) : value ∈ d.values :=
  List.mem_map.mpr ⟨(key, value), mem_entries_of_get? found, rfl⟩

end Directory

/-- What is done behind a guard has an outcome if it has one where the guard lets it through. -/
theorem hasOutcome_guarded {point : FailPoint} {Armed : Prop} [Decidable Armed]
    {asked : Progress} {inner : Except Failure Value × Progress} (through : HasOutcome inner.1) :
    HasOutcome (if Armed then (.error point.failure, asked) else inner).1 := by
  split
  · exact hasOutcome_refused _
  · exact through

theorem Stored.matching_compose (password : Password) {n : Nat} (positive : 1 ≤ n)
    (bound : n ≤ Hash.Pbkdf2.maxIterations) (salt digest : List UInt8) :
    (Stored.hashed (.compose n salt digest)).matching password =
      .ok (decide (password.key salt n = digest)) := by
  rw [matching, PasswordHash.verify_compose password positive bound]

namespace Memory

def Verifiable (m : Memory) : Prop :=
  ∀ value ∈ m.users.values, ∀ password, ∃ equal, value.matching password = .ok equal

theorem Verifiable.of_get? {m : Memory} (verifiable : m.Verifiable) {user : String}
    {stored : Stored} (found : m.users.get? user = some stored) (password : Password) :
    ∃ equal, stored.matching password = .ok equal :=
  verifiable stored (Directory.mem_values_of_get? found) password

theorem Sound.verifiable {config : Config} {salts : SaltSource} {draws : Nat} {m : Memory}
    (sound : m.Sound config salts draws)
    (bound : config.hashIterations ≤ Hash.Pbkdf2.maxIterations) : m.Verifiable := by
  intro value stored password
  obtain ⟨number, kept, -, -, rfl⟩ := sound.hashed value stored
  exact ⟨_, Stored.matching_compose password config.iterations_pos bound _ _⟩

end Memory

namespace Store

section Calls

variable (config : Config) (salts : SaltSource) {p : Progress}

theorem hasOutcome_register (sound : p.backend.defects = .none)
    (bound : config.hashIterations ≤ Hash.Pbkdf2.maxIterations) (user : String)
    (password : Password) :
    HasOutcome ((activity config salts (.register user password)).outcome p).1 := by
  rw [outcome_register config salts sound]
  cases UserId.check user with
  | error malformation => exact hasOutcome_refused _
  | ok id =>
      refine hasOutcome_guarded ?_
      cases p.backend.memory.users.get? id with
      | some stored => exact hasOutcome_refused _
      | none =>
          rw [Password.hash_eq password _ config.iterations_pos bound]
          refine hasOutcome_guarded ?_
          exact hasOutcome_ok _

theorem hasOutcome_login (sound : p.backend.defects = .none)
    (verifiable : p.backend.memory.Verifiable) (presented : Presented) :
    HasOutcome ((activity config salts (.login presented)).outcome p).1 := by
  rw [outcome_login config salts sound]
  cases presented.credentials with
  | error malformation => exact hasOutcome_refused _
  | ok credentials =>
      refine hasOutcome_guarded ?_
      cases found : p.backend.memory.users.get? credentials.user with
      | none => exact hasOutcome_ok _
      | some stored =>
          obtain ⟨equal, matching⟩ := verifiable.of_get? found credentials.password
          dsimp only
          rw [matching]
          cases equal with
          | false => exact hasOutcome_ok _
          | true =>
              refine hasOutcome_guarded ?_
              exact hasOutcome_ok _

theorem hasOutcome_logout (sound : p.backend.defects = .none) (user : String) :
    HasOutcome ((activity config salts (.logout user)).outcome p).1 := by
  rw [outcome_logout config salts sound]
  cases UserId.check user with
  | error malformation => exact hasOutcome_refused _
  | ok id =>
      refine hasOutcome_guarded ?_
      exact hasOutcome_ok _

theorem hasOutcome_isLoggedIn (sound : p.backend.defects = .none) (user : String) :
    HasOutcome ((activity config salts (.isLoggedIn user)).outcome p).1 := by
  rw [outcome_isLoggedIn config salts sound]
  cases UserId.check user with
  | error malformation => exact hasOutcome_refused _
  | ok id =>
      refine hasOutcome_guarded ?_
      exact hasOutcome_ok _

theorem hasOutcome_accessSecret (sound : p.backend.defects = .none) {user message : String}
    (rendered : Template.render config.secretTemplate user = .ok message) :
    HasOutcome ((activity config salts (.accessSecret user)).outcome p).1 := by
  rw [outcome_accessSecret config salts sound]
  cases checked : UserId.check user with
  | error malformation => exact hasOutcome_refused _
  | ok id =>
      obtain ⟨-, rfl⟩ := UserId.check_eq_ok_iff.mp checked
      refine hasOutcome_guarded ?_
      by_cases live : id ∈ p.backend.memory.sessions
      · rw [if_pos live, rendered]
        exact hasOutcome_ok _
      · rw [if_neg live]
        exact hasOutcome_refused _

end Calls

/-- A call has an outcome if hashing, comparing and filling in the template cannot fail. -/
theorem hasOutcome_call {s : Store} (sound : s.backend.defects = .none)
    (bound : s.config.hashIterations ≤ Hash.Pbkdf2.maxIterations)
    (verifiable : s.backend.memory.Verifiable) {call : Call}
    (renders : ∀ user, call = .accessSecret user →
      ∃ message, Template.render s.config.secretTemplate user = .ok message) :
    HasOutcome (s.act (.call call)).result := by
  have sound : s.progress.backend.defects = .none := sound
  cases call with
  | register user password => exact hasOutcome_register s.config s.salts sound bound user password
  | login presented => exact hasOutcome_login s.config s.salts sound verifiable presented
  | logout user => exact hasOutcome_logout s.config s.salts sound user
  | isLoggedIn user => exact hasOutcome_isLoggedIn s.config s.salts sound user
  | accessSecret user =>
      obtain ⟨message, rendered⟩ := renders user rfl
      exact hasOutcome_accessSecret s.config s.salts sound rendered

end Store

end Gatekeeper
