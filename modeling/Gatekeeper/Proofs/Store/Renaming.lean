import Gatekeeper.Proofs.Store.Handover
import Gatekeeper.Proofs.Store.Reachable
import Gatekeeper.Proofs.Store.Relation

/-!
# Calls with renamed passwords

Two stores keep registrations of the same users under the same salts, the second with
renamed passwords.  A call that is made of both, of the second with a renamed password,
ends the same way and leaves two such stores behind: a password is only ever hashed, or
compared with the one that is kept.
-/

namespace Gatekeeper

/-! ## Renamed passwords -/

def Intent.rename (r : String → String) : Intent → Intent
  | register user password => register user (r password)
  | login handover user password => login handover user (r password)
  | logout user => logout user
  | isLoggedIn user => isLoggedIn user
  | accessSecret user => accessSecret user
  | arm name => arm name

structure Registration where
  user : String
  password : String
  salt : List UInt8

namespace Registration

def rename (r : String → String) (k : Registration) : Registration :=
  { k with password := r k.password }

def stored (config : Config) (k : Registration) : Stored :=
  .hashed (.compose config.hashIterations k.salt
    (Password.key ⟨k.password⟩ k.salt config.hashIterations))

def entry (config : Config) (k : Registration) : String × Stored := (k.user, k.stored config)

def TellsApart (config : Config) (k : Registration) (tried : String) : Prop :=
  tried ≠ k.password → Password.key ⟨tried⟩ k.salt config.hashIterations ≠
    Password.key ⟨k.password⟩ k.salt config.hashIterations

instance (config : Config) (k : Registration) (tried : String) :
    Decidable (k.TellsApart config tried) :=
  inferInstanceAs (Decidable (_ → _))

/-- A hash is shown without what it is made of. -/
theorem describe_stored (config : Config) (k : Registration) :
    (k.stored config).describe = "EncodedPassword(" ++ redacted ++ ")" := rfl

variable {config : Config}

theorem find?_entries (user : String) (kept : List Registration) :
    Directory.find? user (kept.map (entry config)) =
      (kept.find? fun k => k.user = user).map (stored config) := by
  induction kept with
  | nil => rfl
  | cons k rest ih =>
      by_cases same : k.user = user
      · simp [entry, Directory.find?, same]
      · simp [entry, Directory.find?, same, ih]

theorem find?_rename (r : String → String) (user : String) (kept : List Registration) :
    ((kept.map (rename r)).find? fun k => k.user = user) =
      (kept.find? fun k => k.user = user).map (rename r) := by
  rw [List.find?_map]
  rfl

/-- Then the password that is kept is the only one that matches. -/
theorem matching_stored (bound : config.hashIterations ≤ Hash.Pbkdf2.maxIterations)
    {k : Registration} {tried : String} (apart : k.TellsApart config tried) :
    (k.stored config).matching ⟨tried⟩ = .ok (decide (tried = k.password)) := by
  rw [stored, Stored.matching_compose _ config.iterations_pos bound, Except.ok.injEq,
    decide_eq_decide]
  constructor
  · intro same
    exact Decidable.byContradiction fun other => apart other same
  · rintro rfl
    rfl

end Registration

/-- Two stages of progress that keep the same registrations, in the second with renamed
passwords, and are the same in all else. -/
structure Progress.Renamed (config : Config) (r : String → String) (kept : List Registration)
    (p q : Progress) : Prop where
  guards : p.backend.guards = q.backend.guards
  left : p.backend.defects = .none
  right : q.backend.defects = .none
  users : p.backend.memory.users.entries = kept.map (Registration.entry config)
  renamed : q.backend.memory.users.entries =
    (kept.map (Registration.rename r)).map (Registration.entry config)
  hashable : ∀ k ∈ kept, config.hashIterations ≤ Hash.Pbkdf2.maxIterations
  sessions : p.backend.memory.sessions = q.backend.memory.sessions
  draws : p.draws = q.draws
  events : p.events = q.events

namespace Progress.Renamed

variable {config : Config} {r : String → String} {kept : List Registration} {p q : Progress}

theorem isArmed (related : Renamed config r kept p q) : p.backend.isArmed = q.backend.isArmed := by
  funext point
  rw [Backend.isArmed, Backend.isArmed, related.guards]

theorem get?_left (related : Renamed config r kept p q) (user : String) :
    p.backend.memory.users.get? user =
      (kept.find? fun k => k.user = user).map (Registration.stored config) := by
  rw [Directory.get?, related.users, Registration.find?_entries]

theorem get?_right (related : Renamed config r kept p q) (user : String) :
    q.backend.memory.users.get? user =
      (kept.find? fun k => k.user = user).map fun k => (k.rename r).stored config := by
  rw [Directory.get?, related.renamed, Registration.find?_entries, Registration.find?_rename,
    Option.map_map]
  rfl

/-! ## What is shown -/

theorem keys_eq (related : Renamed config r kept p q) :
    p.backend.memory.users.keys = q.backend.memory.users.keys := by
  rw [Directory.keys, Directory.keys, related.users, related.renamed, List.map_map, List.map_map,
    List.map_map]
  rfl

theorem size_eq (related : Renamed config r kept p q) :
    p.backend.memory.users.size = q.backend.memory.users.size := by
  rw [Directory.size, Directory.size, related.users, related.renamed, List.length_map,
    List.length_map, List.length_map]

theorem describe_values_eq (related : Renamed config r kept p q) :
    p.backend.memory.users.values.map Stored.describe =
      q.backend.memory.users.values.map Stored.describe := by
  simp only [Directory.values, related.users, related.renamed, List.map_map]
  refine List.map_congr_left fun k _ => ?_
  have shown := Registration.describe_stored config k
  have shown' := Registration.describe_stored config (k.rename r)
  exact shown.trans shown'.symm

theorem describe_memory_eq (related : Renamed config r kept p q) :
    p.backend.memory.describe = q.backend.memory.describe := by
  unfold Memory.describe
  rw [related.size_eq, related.sessions]

theorem describe_backend_eq (related : Renamed config r kept p q) :
    p.backend.describe = q.backend.describe := by
  unfold Backend.describe
  rw [related.guards, related.describe_memory_eq]

/-! ## What keeps progress renamed -/

theorem noting (related : Renamed config r kept p q) (event : Event) :
    Renamed config r kept (p.noting event) (q.noting event) :=
  { related with events := congrArg (· ++ [event]) related.events }

theorem drawing (related : Renamed config r kept p q) (draws : Nat) :
    Renamed config r kept { p with draws } { q with draws } :=
  { related with draws := rfl }

theorem behind (related : Renamed config r kept p q) (guards : List (Roster FailPoint)) :
    Renamed config r kept (p.behind guards) (q.behind guards) :=
  { related with guards := rfl }

theorem withSessions (related : Renamed config r kept p q) (sessions : Roster String) :
    Renamed config r kept (p.withMemory { p.backend.memory with sessions })
      (q.withMemory { q.backend.memory with sessions }) :=
  { related with sessions := rfl }

theorem entries_insert {config : Config} {users : Directory Stored}
    (same : users.entries = kept.map (Registration.entry config)) {k : Registration}
    (absent : ∀ other ∈ kept, other.user ≠ k.user) :
    (users.insert k.user (k.stored config)).entries =
      (kept ++ [k]).map (Registration.entry config) := by
  have unknown : k.user ∉ users.entries.map Prod.fst := by
    rw [same, List.map_map, List.mem_map]
    rintro ⟨other, among, name⟩
    exact absent other among name
  show Directory.enter k.user (k.stored config) users.entries = _
  rw [Directory.enter_of_not_mem unknown, same, List.map_append]
  rfl

theorem entered (related : Renamed config r kept p q) {k : Registration}
    (bound : config.hashIterations ≤ Hash.Pbkdf2.maxIterations)
    (absent : ∀ other ∈ kept, other.user ≠ k.user) :
    Renamed config r (kept ++ [k])
      (p.withMemory { p.backend.memory with
        users := p.backend.memory.users.insert k.user (k.stored config) })
      (q.withMemory { q.backend.memory with
        users := q.backend.memory.users.insert k.user ((k.rename r).stored config) }) := by
  have absent' : ∀ other ∈ kept.map (Registration.rename r), other.user ≠ (k.rename r).user := by
    intro other among
    obtain ⟨original, before, rfl⟩ := List.mem_map.mp among
    exact absent original before
  have renamed := entries_insert related.renamed absent'
  exact { related with
    users := entries_insert related.users absent
    renamed := by rw [List.map_append]; exact renamed
    hashable := fun _ _ => bound }

/-! ## Calls -/

open Store Activity

variable (salts : SaltSource)

def Alike {α : Type} (config : Config) (r : String → String) (kept : List Registration)
    (ended ended' : Except Failure α × Progress) : Prop :=
  ended.1 = ended'.1 ∧ Renamed config r kept ended.2 ended'.2

theorem absent_of_find? {user : String} (absent : (kept.find? fun k => k.user = user) = none) :
    ∀ k ∈ kept, k.user ≠ user := by
  intro k among same
  have other := List.find?_eq_none.mp absent k among
  exact other (decide_eq_true same)

/-- A registration ends the same with another password, and if it returns, both are kept under
the same salt. -/
theorem register (related : Renamed config r kept p q) (user password : String) :
    let ended := (activity config salts (.register user ⟨password⟩)).outcome p
    let ended' := (activity config salts (.register user ⟨r password⟩)).outcome q
    (∃ failure, ended.1 = .error failure ∧ Alike config r kept ended ended') ∨
      ended.1 = .ok .done ∧
        Alike config r (kept ++ [⟨user, password, salts.draw (p.draws + 1) config.saltBytes⟩])
          ended ended' := by
  -- Both sides pass the same checks in the same order; the password matters to none of them.
  intro ended ended'
  have first : ended = _ := outcome_register config salts related.left user ⟨password⟩
  have second : ended' = _ := outcome_register config salts related.right user ⟨r password⟩
  have asked := related.noting (.invoked .getPassword)
  cases checked : UserId.check user with
  | error malformation =>
      simp only [checked] at first second
      rw [first, second]
      exact .inl ⟨_, rfl, rfl, related⟩
  | ok id =>
      obtain ⟨-, rfl⟩ := UserId.check_eq_ok_iff.mp checked
      simp only [checked, related.isArmed, related.get?_left, related.get?_right, ← related.draws]
        at first second
      by_cases asking : q.backend.isArmed .getPassword = true
      · rw [if_pos asking] at first second
        rw [first, second]
        exact .inl ⟨_, rfl, rfl, asked⟩
      rw [if_neg asking] at first second
      cases found : kept.find? fun k => k.user = id with
      | some k =>
          simp only [found] at first second
          rw [first, second]
          exact .inl ⟨_, rfl, rfl, asked⟩
      | none =>
          simp only [found] at first second
          have drawn := (asked.drawing (p.draws + 1)).noting (.drewSalt (p.draws + 1))
          cases refused : Hash.Pbkdf2.refusal? (config.hashIterations : Int) with
          | some fault =>
              simp only [Password.hash_of_refused _ _ refused] at first second
              rw [first, second]
              exact .inl ⟨_, rfl, rfl, drawn⟩
          | none =>
              have bound : config.hashIterations ≤ Hash.Pbkdf2.maxIterations :=
                Int.ofNat_le.mp (Hash.Pbkdf2.refusal?_eq_none_iff.mp refused).2
              simp only [Password.hash_eq _ _ config.iterations_pos bound] at first second
              have entering := drawn.noting (.invoked .register)
              by_cases armed : q.backend.isArmed .register = true
              · rw [if_pos armed] at first second
                rw [first, second]
                exact .inl ⟨_, rfl, rfl, entering⟩
              rw [if_neg armed] at first second
              rw [first, second]
              exact .inr ⟨rfl, rfl, (entering.entered bound (absent_of_find? found)).noting _⟩

/-- A login ends the same with another password if what is kept tells both apart from any other
that is tried. -/
theorem login (related : Renamed config r kept p q) (injective : Function.Injective r)
    (user tried : String)
    (apart : p.backend.isArmed .getPassword = false → ∀ k ∈ kept, k.user = user →
      k.TellsApart config tried ∧ (k.rename r).TellsApart config (r tried)) :
    Alike config r kept
      ((activity config salts (.login (.pair ⟨user, ⟨tried⟩⟩))).outcome p)
      ((activity config salts (.login (.pair ⟨user, ⟨r tried⟩⟩))).outcome q) := by
  have asked := related.noting (.invoked .getPassword)
  rw [outcome_login config salts related.left, outcome_login config salts related.right]
  simp only [Presented.credentials, Credentials.check]
  cases checked : UserId.check user with
  | error malformation => exact ⟨rfl, related⟩
  | ok id =>
      obtain ⟨-, rfl⟩ := UserId.check_eq_ok_iff.mp checked
      simp only [related.isArmed, related.get?_left, related.get?_right]
      by_cases asking : q.backend.isArmed .getPassword = true
      · rw [if_pos asking, if_pos asking]
        exact ⟨rfl, asked⟩
      rw [if_neg asking, if_neg asking]
      cases found : kept.find? fun k => k.user = id with
      | none => exact ⟨rfl, asked.noting _⟩
      | some k =>
          have among := List.mem_of_find?_eq_some found
          have own : k.user = id := by simpa using List.find?_some found
          have unarmed : p.backend.isArmed .getPassword = false := by
            rw [related.isArmed]
            simpa using asking
          -- Whether the two are equal is all that is left of the passwords.
          obtain ⟨here, there⟩ := apart unarmed k among own
          have bound := related.hashable k among
          have matching := Registration.matching_stored bound here
          have matching' : ((k.rename r).stored config).matching ⟨r tried⟩ =
              .ok (decide (tried = k.password)) := by
            rw [Registration.matching_stored bound there]
            exact congrArg Except.ok (decide_eq_decide.mpr injective.eq_iff)
          simp only [Option.map_some, matching, matching']
          by_cases same : tried = k.password
          · simp only [decide_eq_true same]
            have entering := asked.noting (.invoked .addSession)
            by_cases armed : q.backend.isArmed .addSession = true
            · rw [if_pos armed, if_pos armed]
              exact ⟨rfl, entering⟩
            rw [if_neg armed, if_neg armed, related.sessions]
            exact ⟨rfl, (entering.withSessions _).noting _⟩
          · simp only [decide_eq_false same]
            exact ⟨rfl, asked.noting _⟩

/-! ## What needs no password -/

theorem sessionUnseen (user : String) : SessionUnseen (Renamed config r kept) user where
  guards := fun related => related.guards
  live := by
    intro p q related
    rw [related.left, related.right, Defects.hasSession_none, Defects.hasSession_none,
      related.sessions]
  noted := fun event related => related.noting event
  guarded := fun guards related => related.behind guards
  closed := by
    intro p q related
    rw [related.left, related.right, Defects.removeSession_none, Defects.removeSession_none,
      related.sessions]
    exact related.withSessions _

theorem passwordless (related : Renamed config r kept p q) {call : Call}
    (passwordless : call.Passwordless) :
    Alike config r kept ((activity config salts call).outcome p)
      ((activity config salts call).outcome q) :=
  respects_of_about (fun user concerns =>
    (sessionUnseen user).activity config salts concerns passwordless) p q related

theorem arm (related : Renamed config r kept p q) (name : String) :
    Alike config r kept ((Backend.arm 0 name).outcome p) ((Backend.arm 0 name).outcome q) :=
  (sessionUnseen "").arm 0 name p q related

end Progress.Renamed

end Gatekeeper
