import Gatekeeper.Proofs.Password.Format
import Gatekeeper.Proofs.Store.Effect
import Gatekeeper.Rule

/-!
# Sound stores

In a sound store every session is that of a registered user, every identifier is
well formed, and every stored value is the hash of some password under a salt that
was drawn before, no two under the same salt.  Every action of a store keeps it
sound, whatever is armed and whether the action fails or not, as long as no salt
is drawn twice.
-/

namespace Gatekeeper

/-! ## Salts -/

namespace SaltSource

def Distinct (salts : SaltSource) (length draws : Nat) : Prop :=
  ∀ m n, 1 ≤ m → m < n → n ≤ draws → salts.draw m length ≠ salts.draw n length

theorem Distinct.mono {salts : SaltSource} {length fewer draws : Nat}
    (distinct : salts.Distinct length draws) (le : fewer ≤ draws) :
    salts.Distinct length fewer := by
  intro m n positive less last
  exact distinct m n positive less (Nat.le_trans last le)

theorem mod_eq_of_littleEndian_eq {length m n : Nat}
    (same : littleEndian length m = littleEndian length n) :
    m % Nat.pow 256 length = n % Nat.pow 256 length := by
  induction length generalizing m n with
  | zero => exact (Nat.mod_one m).trans (Nat.mod_one n).symm
  | succ length ih =>
      simp only [littleEndian, List.cons.injEq] at same
      have low : m % 256 = n % 256 := by simpa using congrArg UInt8.toNat same.1
      have high := ih same.2
      show m % (Nat.pow 256 length * 256) = n % (Nat.pow 256 length * 256)
      rw [Nat.mul_comm, Nat.mod_mul, Nat.mod_mul, low, high]

/-- The counter repeats itself only after all texts of a length. -/
theorem counter_distinct {length draws : Nat} (few : draws < Nat.pow 256 length) :
    counter.Distinct length draws := by
  intro m n positive less last same
  have congruent := mod_eq_of_littleEndian_eq same
  have small : n < Nat.pow 256 length := Nat.lt_of_le_of_lt last few
  rw [Nat.mod_eq_of_lt (Nat.lt_trans less small), Nat.mod_eq_of_lt small] at congruent
  exact absurd congruent (Nat.ne_of_lt less)

end SaltSource

/-! ## Values of a directory -/

namespace Directory

variable {α : Type}

theorem enter_of_not_mem {key : String} {entries : List (String × α)}
    (absent : key ∉ entries.map Prod.fst) (value : α) :
    enter key value entries = entries ++ [(key, value)] := by
  induction entries with
  | nil => rfl
  | cons entry rest ih =>
      obtain ⟨k, v⟩ := entry
      simp only [List.map_cons, List.mem_cons, not_or] at absent
      rw [enter, if_neg (Ne.symm absent.1), ih absent.2, List.cons_append]

theorem values_insert {d : Directory α} {key : String} (absent : key ∉ d) (value : α) :
    (d.insert key value).values = d.values ++ [value] := by
  show (enter key value d.entries).map Prod.snd = _
  rw [enter_of_not_mem absent, List.map_append]
  rfl

end Directory

/-! ## Users and sessions -/

namespace Memory

theorem registered_empty : ∀ user, user ∈ empty.sessions → user ∈ empty.users :=
  fun user live => absurd live (Roster.not_mem_empty user)

theorem wellFormed_empty : ∀ user, user ∈ empty.users → UserId.WellFormed user :=
  fun user known => absurd known (Directory.not_mem_empty user)

variable {m : Memory} (registered : ∀ user, user ∈ m.sessions → user ∈ m.users)

include registered

theorem registered_insert_user (user : String) (stored : Stored) :
    ∀ other, other ∈ m.sessions → other ∈ m.users.insert user stored :=
  fun other live => Directory.mem_insert.mpr (.inl (registered other live))

theorem registered_insert_session {user : String} (known : user ∈ m.users) :
    ∀ other, other ∈ m.sessions.insert user → other ∈ m.users := by
  intro other live
  rcases Roster.mem_insert.mp live with before | rfl
  · exact registered other before
  · exact known

theorem registered_erase_session (user : String) :
    ∀ other, other ∈ m.sessions.erase user → other ∈ m.users :=
  fun other live => registered other (Roster.mem_erase.mp live).2

omit registered

theorem wellFormed_insert_user (formed : ∀ user, user ∈ m.users → UserId.WellFormed user)
    {user : String} (new : UserId.WellFormed user) (stored : Stored) :
    ∀ other, other ∈ m.users.insert user stored → UserId.WellFormed other := by
  intro other known
  rcases Directory.mem_insert.mp known with before | rfl
  · exact formed other before
  · exact new

end Memory

/-! ## The invariant -/

def Config.hashOf (config : Config) (salts : SaltSource) (number : Nat) (password : Password) :
    PasswordHash :=
  .compose config.hashIterations (salts.draw number config.saltBytes)
    (password.key (salts.draw number config.saltBytes) config.hashIterations)

theorem Config.hash_eq_hashOf {config : Config}
    (bound : config.hashIterations ≤ Hash.Pbkdf2.maxIterations)
    (salts : SaltSource) (number : Nat) (password : Password) :
    password.hash (salts.draw number config.saltBytes) config.hashIterations =
      .ok (config.hashOf salts number password) :=
  Password.hash_eq password _ config.iterations_pos bound

/-- What holds of a memory into which a store has written with so many draws. -/
structure Memory.Sound (config : Config) (salts : SaltSource) (draws : Nat) (m : Memory) :
    Prop where
  registered : ∀ user, user ∈ m.sessions → user ∈ m.users
  wellFormed : ∀ user, user ∈ m.users → UserId.WellFormed user
  hashed : ∀ value ∈ m.users.values, ∃ number password, 1 ≤ number ∧ number ≤ draws ∧
    value = .hashed (config.hashOf salts number password)
  unique : m.users.values.Nodup

namespace Memory.Sound

variable {config : Config} {salts : SaltSource} {draws : Nat} {m : Memory}

theorem empty (config : Config) (salts : SaltSource) (draws : Nat) :
    Sound config salts draws .empty where
  registered := registered_empty
  wellFormed := wellFormed_empty
  hashed := by
    intro value stored
    cases stored
  unique := List.nodup_nil

theorem mono (sound : m.Sound config salts draws) {more : Nat} (le : draws ≤ more) :
    m.Sound config salts more where
  registered := sound.registered
  wellFormed := sound.wellFormed
  hashed := by
    intro value stored
    obtain ⟨number, password, positive, drawn, eq⟩ := sound.hashed value stored
    exact ⟨number, password, positive, Nat.le_trans drawn le, eq⟩
  unique := sound.unique

theorem insert_user (sound : m.Sound config salts draws)
    (bound : config.hashIterations ≤ Hash.Pbkdf2.maxIterations)
    (distinct : salts.Distinct config.saltBytes (draws + 1)) {user : String}
    (formed : UserId.WellFormed user) (absent : user ∉ m.users) (password : Password) :
    Sound config salts (draws + 1)
      ⟨m.users.insert user (.hashed (config.hashOf salts (draws + 1) password)), m.sessions⟩ where
  registered := registered_insert_user sound.registered user _
  wellFormed := wellFormed_insert_user sound.wellFormed formed _
  hashed := by
    intro value stored
    rw [Directory.values_insert absent, List.mem_append, List.mem_singleton] at stored
    rcases stored with before | rfl
    · exact (sound.mono (Nat.le_succ draws)).hashed value before
    · exact ⟨draws + 1, password, Nat.le_add_left 1 draws, Nat.le_refl _, rfl⟩
  unique := by
    show (m.users.insert user _).values.Nodup
    rw [Directory.values_insert absent, List.nodup_append]
    refine ⟨sound.unique, by simp, ?_⟩
    intro value stored other new
    rw [List.mem_singleton.mp new]
    obtain ⟨number, kept, positive, drawn, rfl⟩ := sound.hashed value stored
    -- The new salt is none of those that were drawn before.
    have other_salt := distinct number (draws + 1) positive (by omega) (Nat.le_refl _)
    intro same
    exact PasswordHash.compose_ne_of_salt_ne bound other_salt _ _ (Stored.hashed.inj same)

theorem insert_session (sound : m.Sound config salts draws) {user : String}
    (known : user ∈ m.users) :
    Sound config salts draws { m with sessions := m.sessions.insert user } where
  registered := registered_insert_session sound.registered known
  wellFormed := sound.wellFormed
  hashed := sound.hashed
  unique := sound.unique

theorem erase_session (sound : m.Sound config salts draws) (user : String) :
    Sound config salts draws { m with sessions := m.sessions.erase user } where
  registered := registered_erase_session sound.registered user
  wellFormed := sound.wellFormed
  hashed := sound.hashed
  unique := sound.unique

/-- A sound memory keeps every rule. -/
theorem holds (sound : m.Sound config salts draws) (rule : Rule) : rule.Holds m := by
  cases rule with
  | sessionsRegistered => exact sound.registered
  | passwordsHashed =>
      intro value stored
      obtain ⟨number, password, -, -, rfl⟩ := sound.hashed value stored
      exact ⟨_, rfl⟩
  | hashesUnique => exact sound.unique
  | identifiersWellFormed => exact sound.wellFormed

end Memory.Sound

namespace Store

structure Sound (s : Store) : Prop where
  defects : s.backend.defects = .none
  memory : s.backend.memory.Sound s.config s.salts s.draws

theorem Effect.draws_bounds {config : Config} {salts : SaltSource} {p p' : Progress} {call : Call}
    {result : Except Failure Value} (effect : Effect config salts p call result p') :
    p.draws ≤ p'.draws ∧ p'.draws ≤ p.draws + 1 := by
  cases effect <;> omega

theorem Effect.sound {config : Config} {salts : SaltSource} {p p' : Progress} {call : Call}
    {result : Except Failure Value} (effect : Effect config salts p call result p')
    (bound : config.hashIterations ≤ Hash.Pbkdf2.maxIterations)
    (distinct : salts.Distinct config.saltBytes p'.draws)
    (before : p.backend.memory.Sound config salts p.draws) :
    p'.backend.memory.Sound config salts p'.draws := by
  cases effect with
  | failed backend least =>
      rw [backend]
      exact before.mono least
  | looked backend draws =>
      rw [backend, draws]
      exact before
  | registered wellFormed absent hashed backend draws =>
      rw [Config.hash_eq_hashOf bound, Except.ok.injEq] at hashed
      rw [backend, draws, ← hashed]
      exact before.insert_user bound (draws ▸ distinct) wellFormed
        (Directory.get?_eq_none_iff.mp absent) _
  | opened read found matching backend draws =>
      rw [backend, draws]
      refine before.insert_session (Directory.get?_isSome_iff.mp ?_)
      rw [found]
      rfl
  | closed wellFormed backend draws =>
      rw [backend, draws]
      exact before.erase_session _

theorem Effect.defects_eq {config : Config} {salts : SaltSource} {p p' : Progress} {call : Call}
    {result : Except Failure Value} (effect : Effect config salts p call result p') :
    p'.backend.defects = p.backend.defects := by
  cases effect with
  | failed backend | looked backend => rw [backend]
  | registered _ _ _ backend => rw [backend]
  | opened _ _ _ backend => rw [backend]
  | closed _ backend => rw [backend]

/-- Whether an action fails or not, it keeps a store sound. -/
theorem Sound.act {s : Store} (sound : s.Sound)
    (bound : s.config.hashIterations ≤ Hash.Pbkdf2.maxIterations)
    (action : Action)
    (distinct : s.salts.Distinct s.config.saltBytes (s.act action).store.draws) :
    (s.act action).store.Sound := by
  rcases s.act_call_or_guards action with ⟨call, rfl⟩ | ⟨guards, changed⟩
  · have effect := effect_outcome s.config s.salts (p := s.progress) sound.defects call
    exact ⟨effect.defects_eq.trans sound.defects, effect.sound bound distinct sound.memory⟩
  · rw [changed]
    exact ⟨sound.defects, sound.memory⟩

theorem act_defects {s : Store} (sound : s.backend.defects = .none) (action : Action) :
    (s.act action).store.backend.defects = .none := by
  rcases s.act_call_or_guards action with ⟨call, rfl⟩ | ⟨guards, changed⟩
  · have effect := effect_outcome s.config s.salts (p := s.progress) sound call
    exact effect.defects_eq.trans sound
  · rw [changed]
    exact sound

theorem draws_act_bounds {s : Store} (sound : s.backend.defects = .none) (action : Action) :
    s.draws ≤ (s.act action).store.draws ∧ (s.act action).store.draws ≤ s.draws + 1 := by
  rcases s.act_call_or_guards action with ⟨call, rfl⟩ | ⟨guards, changed⟩
  · exact (effect_outcome s.config s.salts (p := s.progress) sound call).draws_bounds
  · rw [changed]
    exact ⟨Nat.le_refl _, Nat.le_succ _⟩

end Store

end Gatekeeper
