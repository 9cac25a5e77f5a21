import Gatekeeper.Proofs.Store.Reachable
import Gatekeeper.Proofs.Store.Relation
import Mathlib.Data.List.Nodup

/-!
# A store that overwrites the first user

With one defect, a registration that finds four users also gives its hash to the first
of them.  All else the store does is what a store without defects does, and what it
answers is always the same; but after such a registration two users share one hash.
-/

namespace Gatekeeper

/-! ## The defect -/

namespace Directory

variable {α : Type}

/-- Keys with one value are one key if no value is there twice. -/
theorem key_eq_of_get? {d : Directory α} (unique : d.values.Nodup) {key key' : String} {value : α}
    (found : d.get? key = some value) (found' : d.get? key' = some value) : key = key' := by
  have same := List.inj_on_of_nodup_map unique (mem_entries_of_get? found)
    (mem_entries_of_get? found') rfl
  exact congrArg Prod.fst same

theorem mem_values_insert {d : Directory α} {key : String} {value v : α}
    (member : v ∈ (d.insert key value).values) : v = value ∨ v ∈ d.values := by
  have search : ∀ entries : List (String × α), v ∈ (enter key value entries).map Prod.snd →
      v = value ∨ v ∈ entries.map Prod.snd := by
    intro entries member
    induction entries with
    | nil => simpa [enter] using member
    | cons entry rest ih =>
        obtain ⟨k, w⟩ := entry
        by_cases same : k = key
        · rw [enter, if_pos same] at member
          rcases List.mem_cons.mp member with new | old
          · exact .inl new
          · exact .inr (List.mem_cons_of_mem w old)
        · rw [enter, if_neg same] at member
          rcases List.mem_cons.mp member with first | later
          · exact .inr (List.mem_cons.mpr (.inl first))
          · exact (ih later).imp_right (List.mem_cons_of_mem w)
  exact search d.entries member

end Directory

namespace Defects

def overwriting : Defects := { active := [.overwrite] }

/-- What a registration makes of a memory with at least four users. -/
def overfilled (m : Memory) (user : String) (hash : PasswordHash) : Memory :=
  let m := overwriteFirst m hash
  { m with users := m.users.insert user (.hashed hash) }

theorem overwriting_register (m : Memory) (user : String) (hash : PasswordHash) :
    overwriting.register m user hash =
      if 4 ≤ m.users.size then .ok (overfilled m user hash) else none.register m user hash := by
  by_cases many : 4 ≤ m.users.size
  · have reached : overwriting.reached m = true :=
      decide_eq_true (show (4 : Int) ≤ (m.users.size : Int) by omega)
    rw [if_pos many, register, reached]
    rfl
  · have below : overwriting.reached m = false :=
      decide_eq_false (show ¬(4 : Int) ≤ (m.users.size : Int) by omega)
    rw [if_neg many, register, below]
    rfl

/-- After it the first user and the new one share a hash. -/
theorem not_hashesUnique_overfilled {m : Memory} {user : String} (absent : user ∉ m.users)
    (occupied : 0 < m.users.size) (hash : PasswordHash) :
    ¬Rule.hashesUnique.Holds (overfilled m user hash) := by
  intro unique
  obtain ⟨first, head⟩ : ∃ first, m.users.keys.head? = some first := by
    cases keys : m.users.keys with
    | nil =>
        have empty : m.users.entries = [] := List.map_eq_nil_iff.mp keys
        rw [Directory.size, empty] at occupied
        cases occupied
    | cons first rest => exact ⟨first, rfl⟩
  have known : first ∈ m.users := List.mem_of_mem_head? head
  have other : user ≠ first := by
    rintro rfl
    exact absent known
  have users : (overfilled m user hash).users =
      (m.users.insert first (.hashed hash)).insert user (.hashed hash) := by
    rw [overfilled, overwriteFirst, head]
  have unique : (overfilled m user hash).users.values.Nodup := unique
  rw [users] at unique
  have new : ((m.users.insert first (.hashed hash)).insert user (.hashed hash)).get? user =
      some (.hashed hash) := by
    rw [Directory.get?_insert, if_pos rfl]
  have overwritten : ((m.users.insert first (.hashed hash)).insert user (.hashed hash)).get? first =
      some (.hashed hash) := by
    rw [Directory.get?_insert, if_neg other, Directory.get?_insert, if_pos rfl]
  exact other (Directory.key_eq_of_get? unique new overwritten)

theorem verifiable_overfilled {m : Memory} (verifiable : m.Verifiable) (user : String)
    {hash : PasswordHash} (checked : ∀ password, ∃ equal,
      (Stored.hashed hash).matching password = .ok equal) :
    (overfilled m user hash).Verifiable := by
  intro value stored
  rcases Directory.mem_values_insert stored with rfl | before
  · exact checked
  · rw [overwriteFirst] at before
    cases head : m.users.keys.head? with
    | none =>
        rw [head] at before
        exact verifiable value before
    | some first =>
        rw [head] at before
        rcases Directory.mem_values_insert before with rfl | old
        · exact checked
        · exact verifiable value old

end Defects

/-! ## Progress -/

namespace Progress

def planted (p : Progress) : Progress :=
  { p with backend := { p.backend with defects := .overwriting } }

structure Enters (p : Progress) (user : String) : Prop where
  formed : UserId.WellFormed user
  asking : ¬p.backend.isArmed .getPassword = true
  absent : p.backend.memory.users.get? user = none
  entering : ¬p.backend.isArmed .register = true

end Progress

/-- Only registrations show the defect. -/
theorem unseen_planted (user : String) :
    Unseen (fun p q => p.backend.defects = .none ∧ q = p.planted) user where
  guards := by
    rintro p _ ⟨-, rfl⟩
    rfl
  stored := by
    rintro p _ ⟨-, rfl⟩
    rfl
  live := by
    rintro p _ ⟨sound, rfl⟩
    rw [sound]
    rfl
  noted := by
    rintro p _ event ⟨sound, rfl⟩
    exact ⟨sound, rfl⟩
  guarded := by
    rintro p _ guards ⟨sound, rfl⟩
    exact ⟨sound, rfl⟩
  opened := by
    rintro p _ ⟨sound, rfl⟩
    refine ⟨sound, ?_⟩
    rw [sound]
    rfl
  closed := by
    rintro p _ ⟨sound, rfl⟩
    refine ⟨sound, ?_⟩
    rw [sound]
    rfl

namespace Store

open Activity

section Registration

variable (config : Config) (salts : SaltSource) {p : Progress} {user : String}
  (password : Password)

theorem outcome_register_planted (sound : p.backend.defects = .none)
    (few : ¬(p.Enters user ∧ 4 ≤ p.backend.memory.users.size)) :
    (activity config salts (.register user password)).outcome p.planted =
      (((activity config salts (.register user password)).outcome p).1,
        ((activity config salts (.register user password)).outcome p).2.planted) := by
  rw [outcome_register_defective, outcome_register_defective]
  have armed : ∀ point, p.planted.backend.isArmed point = p.backend.isArmed point := fun _ => rfl
  have memory : p.planted.backend.memory = p.backend.memory := rfl
  have defects : p.planted.backend.defects = .overwriting := rfl
  have draws : p.planted.draws = p.draws := rfl
  cases checked : UserId.check user with
  | error malformation => rfl
  | ok id =>
      obtain ⟨formed, rfl⟩ := UserId.check_eq_ok_iff.mp checked
      simp only [armed, memory, defects, draws, sound]
      by_cases asking : p.backend.isArmed .getPassword = true
      · rw [if_pos asking, if_pos asking]
        rfl
      · rw [if_neg asking, if_neg asking]
        cases found : p.backend.memory.users.get? id with
        | some stored => rfl
        | none =>
            dsimp only
            cases password.hash (salts.draw (p.draws + 1) config.saltBytes)
                config.hashIterations with
            | error fault => rfl
            | ok hash =>
                dsimp only
                by_cases entering : p.backend.isArmed .register = true
                · rw [if_pos entering, if_pos entering]
                  rfl
                · have below : ¬4 ≤ p.backend.memory.users.size :=
                    fun many => few ⟨⟨formed, asking, found, entering⟩, many⟩
                  rw [if_neg entering, if_neg entering, Defects.overwriting_register, if_neg below]
                  rfl

end Registration

/-! ## Actions -/

def planted (s : Store) : Store :=
  { s with backend := { s.backend with defects := .overwriting } }

/-- Whether an action registers a user beside four others. -/
def Overfills (s : Store) : Action → Prop
  | .call (.register user _) => s.progress.Enters user ∧ 4 ≤ s.backend.memory.users.size
  | _ => False

variable {s : Store} {action : Action}

theorem run_planted {α : Type} {activity : Activity α} (sound : s.backend.defects = .none)
    (respects : activity.Respects fun p q => p.backend.defects = .none ∧ q = p.planted) :
    (s.planted.run activity).result = (s.run activity).result ∧
      (s.planted.run activity).store = (s.run activity).store.planted := by
  obtain ⟨same, -, after⟩ := respects s.progress s.progress.planted ⟨sound, rfl⟩
  refine ⟨same.symm, ?_⟩
  show s.planted.continued (activity.outcome s.progress.planted).2 =
    (s.continued (activity.outcome s.progress).2).planted
  rw [after]
  rfl

/-- A store with the defect does what one without defects does, unless it is overfilled. -/
theorem act_planted (sound : s.backend.defects = .none) (few : ¬s.Overfills action) :
    (s.planted.act action).result = (s.act action).result ∧
      s.planted.acted action = (s.acted action).planted := by
  by_cases calls : ∃ call, action = .call call
  · obtain ⟨call, rfl⟩ := calls
    by_cases registers : ∃ user password, call = .register user password
    · obtain ⟨user, password, rfl⟩ := registers
      have outcome := outcome_register_planted s.config s.salts password (p := s.progress) sound few
      have performed := perform_of_outcome s.planted outcome
      show (s.planted.perform (.register user password)).result = _ ∧
        (s.planted.perform (.register user password)).store = _
      rw [performed]
      exact ⟨rfl, rfl⟩
    · have saltless : ∀ name password, call ≠ .register name password :=
        fun name password same => registers ⟨name, password, same⟩
      exact run_planted sound (Unseen.activity_of_all unseen_planted s.config s.salts saltless)
  · obtain ⟨activity, respects, made⟩ :=
      (unseen_planted "").session.arming fun call same => calls ⟨call, same⟩
    obtain ⟨same, after⟩ := run_planted sound respects
    rw [acted, acted, made, made]
    exact ⟨congrArg (Except.map fun _ => Value.done) same, after⟩

/-- A registration that enters its user is done, and hashes with the next salt. -/
theorem act_register_of_enters {user : String} {password : Password}
    (bound : s.config.hashIterations ≤ Hash.Pbkdf2.maxIterations)
    (enters : s.progress.Enters user) {memory : Memory}
    (entered : s.backend.defects.register s.backend.memory user
      (s.config.hashOf s.salts (s.draws + 1) password) = .ok memory) :
    (s.act (.call (.register user password))).result = .ok .done ∧
      s.acted (.call (.register user password)) =
        { s with draws := s.draws + 1, backend := { s.backend with memory } } := by
  have hashed := Config.hash_eq_hashOf bound s.salts (s.draws + 1) password
  have outcome := outcome_register_defective s.config s.salts (p := s.progress) user password
  rw [UserId.check_of_wellFormed enters.formed] at outcome
  have performed := perform_of_outcome s outcome
  show (s.perform (.register user password)).result = _ ∧
    (s.perform (.register user password)).store = _
  rw [performed]
  simp only [if_neg enters.asking, enters.absent, if_neg enters.entering]
  rw [show s.progress.draws = s.draws from rfl, hashed]
  dsimp only
  rw [show s.progress.backend = s.backend from rfl, entered]
  exact ⟨rfl, rfl⟩

/-- A store that is overfilled answers all the same, and gives the new hash to two users. -/
theorem act_planted_of_overfills (sound : s.backend.defects = .none)
    (bound : s.config.hashIterations ≤ Hash.Pbkdf2.maxIterations) {user : String}
    {password : Password} (overfills : s.Overfills (.call (.register user password))) :
    (s.act (.call (.register user password))).result = .ok .done ∧
      (s.planted.act (.call (.register user password))).result = .ok .done ∧
      s.planted.acted (.call (.register user password)) =
        planted { s.acted (.call (.register user password)) with
          backend := { (s.acted (.call (.register user password))).backend with
            memory := Defects.overfilled s.backend.memory user
              (s.config.hashOf s.salts (s.draws + 1) password) } } := by
  obtain ⟨enters, many⟩ := overfills
  have enters' : s.planted.progress.Enters user :=
    ⟨enters.formed, enters.asking, enters.absent, enters.entering⟩
  have entered := Defects.register_none s.backend.memory user
    (s.config.hashOf s.salts (s.draws + 1) password)
  rw [← sound] at entered
  have entered' := (Defects.overwriting_register s.backend.memory user
    (s.config.hashOf s.salts (s.draws + 1) password)).trans (if_pos many)
  obtain ⟨result, acted⟩ := act_register_of_enters bound enters entered
  obtain ⟨result', acted'⟩ := act_register_of_enters (s := s.planted) bound enters' entered'
  refine ⟨result, result', ?_⟩
  rw [acted, acted']
  rfl

end Store

end Gatekeeper
