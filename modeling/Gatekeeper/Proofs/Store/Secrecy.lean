import Gatekeeper.Proofs.Run
import Gatekeeper.Proofs.Store.Login
import Gatekeeper.Proofs.Store.Renaming

/-!
# What a store gives away of passwords

If every password of a run is replaced by another one, different ones by different
ones, nobody can tell the two runs apart: not by what the attempts end with, nor by
what is logged, nor by the users, the sessions and how the store, its backend and
what is stored are shown.  It is only assumed that in neither run a login tries a
password that is not the registered one but has its key.
-/

namespace Gatekeeper

open Run

/-! ## Attempts -/

abbrev Attempt := Store × Intent

/-- What can be seen when an attempt is over. -/
structure Sight where
  result : Except Failure Value
  records : List Log.Record
  users : List String
  sessions : Roster String
  store : String
  backend : String
  stored : List String

def Ended.sight (e : Ended Value) : Sight where
  result := e.result
  records := e.records
  users := e.store.backend.memory.users.keys
  sessions := e.store.backend.memory.sessions
  store := e.store.describe
  backend := e.store.backend.describe
  stored := e.store.backend.memory.users.values.map Stored.describe

namespace Attempt

def sight (attempt : Attempt) : Sight := (attempt.1.attempt attempt.2).sight

def registration? (attempt : Attempt) : Option Registration :=
  match attempt.2 with
  | .register user password =>
      if (attempt.1.attempt attempt.2).result.isOk then
        some ⟨user, password, attempt.1.nextSalt⟩
      else none
  | _ => none

theorem registration?_register (s : Store) (user password : String) :
    registration? (s, .register user password) =
      if (s.attempt (.register user password)).result.isOk then
        some ⟨user, password, s.nextSalt⟩
      else none := rfl

end Attempt

/-- If a login comes to try another password than the one of a registration, then it has
another key. -/
def Registration.Discerns (k : Registration) (later : Attempt) : Prop :=
  match later.2 with
  | .login _ user tried =>
      k.user = user → later.1.backend.isArmed .getPassword = false →
        k.TellsApart later.1.config tried
  | _ => True

instance (k : Registration) (later : Attempt) : Decidable (k.Discerns later) := by
  unfold Registration.Discerns
  split
  · infer_instance
  · infer_instance

/-- No login compares another password that has the key of the one that was registered. -/
def Attempt.Discerns (earlier later : Attempt) : Prop :=
  ∀ k ∈ earlier.registration?, k.Discerns later

instance (earlier later : Attempt) : Decidable (earlier.Discerns later) :=
  inferInstanceAs (Decidable (∀ k ∈ _, _))

theorem Attempt.discerns_of_none {earlier : Attempt} (none : earlier.registration? = none)
    (later : Attempt) : earlier.Discerns later := by
  intro k made
  rw [none] at made
  cases made

/-! ## Ends -/

namespace Ended

def reached (e : Ended Value) : Progress := ⟨e.store.backend, e.store.draws, e.events⟩

def Alike (config : Config) (r : String → String) (kept : List Registration)
    (e e' : Ended Value) : Prop :=
  e.result = e'.result ∧ Progress.Renamed config r kept e.reached e'.reached

variable {config : Config} {r : String → String} {kept : List Registration} {e e' : Ended Value}

/-- A hash shows nothing of the password, so the same is seen. -/
theorem Alike.sight_eq (alike : Alike config r kept e e') : e.sight = e'.sight := by
  obtain ⟨result, renamed⟩ := alike
  rw [sight, sight, Sight.mk.injEq]
  refine ⟨result, ?_, renamed.keys_eq, renamed.sessions, ?_, renamed.describe_backend_eq,
    renamed.describe_values_eq⟩
  · exact congrArg (List.filterMap Event.record?) renamed.events
  · show Store.describe _ = Store.describe _
    have size : e.store.backend.memory.users.size = e'.store.backend.memory.users.size :=
      renamed.size_eq
    have sessions : e.store.backend.memory.sessions = e'.store.backend.memory.sessions :=
      renamed.sessions
    unfold Store.describe
    rw [size, sessions]

end Ended

namespace Store

def sights (s : Store) (intents : List Intent) : List Sight :=
  (stages attempted s intents).map Attempt.sight

/-! ## Stores that are renamed -/

/-- Two stores with the same settings that keep the same registrations, in the second with
renamed passwords. -/
structure Renamed (config : Config) (salts : SaltSource) (r : String → String)
    (kept : List Registration) (s t : Store) : Prop where
  left : s.Used config salts
  right : t.Used config salts
  progress : Progress.Renamed config r kept s.progress t.progress

theorem Used.result_call {config : Config} {salts : SaltSource} {s : Store}
    (used : s.Used config salts) (call : Call) :
    (s.act (.call call)).result = ((activity config salts call).outcome s.progress).1 := by
  rw [act, perform_eq, used.config_eq, used.salts_eq]
  rfl

theorem Used.attempted {config : Config} {salts : SaltSource} {s : Store}
    (used : s.Used config salts) (intent : Intent) : (s.attempted intent).Used config salts := by
  rw [Store.attempted, attempt_eq_act]
  exact used.acted _

theorem Used.of_mem_stages {config : Config} {salts : SaltSource} {s : Store}
    (used : s.Used config salts) {intents : List Intent} :
    ∀ stage ∈ stages Store.attempted s intents, stage.1.Used config salts :=
  stages_induction (fun s : Store => s.Used config salts) (fun _ _ => True)
    (fun s _ => s.Used config salts) (fun _ intent used _ => ⟨used, used.attempted intent⟩) used
    fun _ _ => trivial

namespace Renamed

variable {config : Config} {salts : SaltSource} {r : String → String}
  {kept kept' : List Registration} {s t : Store}

theorem act_call (related : Renamed config salts r kept s t) {call call' : Call}
    (alike : Progress.Renamed.Alike config r kept'
      ((activity config salts call).outcome s.progress)
      ((activity config salts call').outcome t.progress)) :
    Ended.Alike config r kept' (s.act (.call call)) (t.act (.call call')) := by
  rw [act, act, perform_eq, perform_eq, related.left.config_eq, related.left.salts_eq,
    related.right.config_eq, related.right.salts_eq]
  exact alike

theorem act_passwordless (related : Renamed config salts r kept s t) {call : Call}
    (passwordless : call.Passwordless) :
    Ended.Alike config r kept (s.act (.call call)) (t.act (.call call)) :=
  related.act_call (related.progress.passwordless salts passwordless)

theorem act_arm (related : Renamed config salts r kept s t) (name : String) :
    Ended.Alike config r kept (s.act (.arm name)) (t.act (.arm name)) := by
  obtain ⟨result, renamed⟩ := related.progress.arm name
  exact ⟨congrArg (Except.map fun _ => Value.done) result, renamed⟩

/-- A registration that returns is kept from then on. -/
theorem act_register (related : Renamed config salts r kept s t) (user password : String) :
    Ended.Alike config r (kept ++ (Attempt.registration? (s, .register user password)).toList)
      (s.act (.call (.register user ⟨password⟩)))
      (t.act (.call (.register user ⟨r password⟩))) := by
  have made := Attempt.registration?_register s user password
  rcases related.progress.register salts user password with
    ⟨failure, failed, alike⟩ | ⟨returned, alike⟩
  · have ended := related.act_call alike
    have result : (s.attempt (.register user password)).result = .error failure :=
      (related.left.result_call _).trans failed
    rw [result] at made
    rw [made]
    simpa [Except.isOk, Except.toBool] using ended
  · have ended := related.act_call alike
    have result : (s.attempt (.register user password)).result = .ok .done :=
      (related.left.result_call _).trans returned
    have salt : s.nextSalt = salts.draw (s.progress.draws + 1) config.saltBytes := by
      rw [nextSalt, related.left.config_eq, related.left.salts_eq]
      rfl
    rw [result, salt] at made
    rw [made]
    exact ended

theorem act_login (related : Renamed config salts r kept s t) (injective : Function.Injective r)
    (handover : Handover) (user tried : String)
    (told : ∀ k ∈ kept, k.Discerns (s, .login handover user tried))
    (told' : ∀ k ∈ kept, (k.rename r).Discerns (t, .login handover user (r tried))) :
    Ended.Alike config r kept (s.act (.call (.login (.pair ⟨user, ⟨tried⟩⟩))))
      (t.act (.call (.login (.pair ⟨user, ⟨r tried⟩⟩)))) := by
  refine related.act_call (related.progress.login salts injective user tried ?_)
  intro unarmed k among own
  have unarmed' : t.backend.isArmed .getPassword = false := by
    rw [show t.backend.isArmed = s.backend.isArmed from related.progress.isArmed.symm]
    exact unarmed
  have here : k.TellsApart s.config tried := told k among own unarmed
  have there : (k.rename r).TellsApart t.config (r tried) := told' k among own unarmed'
  rw [related.left.config_eq] at here
  rw [related.right.config_eq] at there
  exact ⟨here, there⟩

/-- Whatever is attempted, the same is seen, and what is registered is kept in both stores. -/
theorem attempt (related : Renamed config salts r kept s t) (injective : Function.Injective r)
    (intent : Intent) (told : ∀ k ∈ kept, k.Discerns (s, intent))
    (told' : ∀ k ∈ kept, (k.rename r).Discerns (t, intent.rename r)) :
    Ended.Alike config r (kept ++ (Attempt.registration? (s, intent)).toList)
      (s.attempt intent) (t.attempt (intent.rename r)) := by
  rw [attempt_eq_act, attempt_eq_act]
  cases intent with
  | register user password => exact related.act_register user password
  | login handover user tried =>
      show Ended.Alike config r (kept ++ []) _ _
      rw [List.append_nil]
      exact related.act_login injective handover user tried told told'
  | arm name =>
      show Ended.Alike config r (kept ++ []) _ _
      rw [List.append_nil]
      exact related.act_arm name
  | logout user | isLoggedIn user | accessSecret user =>
      show Ended.Alike config r (kept ++ []) _ _
      rw [List.append_nil]
      exact related.act_passwordless trivial

theorem registration?_rename (related : Renamed config salts r kept s t) {intent : Intent}
    (ended : Ended.Alike config r kept' (s.attempt intent) (t.attempt (intent.rename r))) :
    Attempt.registration? (t, intent.rename r) =
      (Attempt.registration? (s, intent)).map (Registration.rename r) := by
  cases intent with
  | register user password =>
      have salt : t.nextSalt = s.nextSalt := by
        rw [nextSalt, nextSalt, related.left.config_eq, related.left.salts_eq,
          related.right.config_eq, related.right.salts_eq,
          show t.draws = s.draws from related.progress.draws.symm]
      have made := Attempt.registration?_register t user (r password)
      rw [show (t.attempt (.register user (r password))).result = _ from ended.1.symm, salt] at made
      rw [Attempt.registration?_register]
      refine made.trans ?_
      by_cases returned : (s.attempt (.register user password)).result.isOk = true
      · rw [if_pos returned, if_pos returned]
        rfl
      · rw [if_neg returned, if_neg returned]
        rfl
  | _ => rfl

theorem attempted (related : Renamed config salts r kept s t) {intent : Intent}
    (ended : Ended.Alike config r kept' (s.attempt intent) (t.attempt (intent.rename r))) :
    Renamed config salts r kept' (s.attempted intent) (t.attempted (intent.rename r)) where
  left := related.left.attempted intent
  right := related.right.attempted (intent.rename r)
  progress := { ended.2 with events := rfl }

end Renamed

/-! ## Runs -/

/-- What is kept, or registered on the way, discerns the passwords that are tried later. -/
structure Told (kept : List Registration) (s : Store) (intents : List Intent) : Prop where
  kept : ∀ k ∈ kept, ∀ later ∈ stages attempted s intents, k.Discerns later
  made : (stages attempted s intents).Pairwise Attempt.Discerns

namespace Told

variable {kept : List Registration} {s : Store} {intent : Intent} {rest : List Intent}

theorem head (told : Told kept s (intent :: rest)) : ∀ k ∈ kept, k.Discerns (s, intent) :=
  fun k among => told.kept k among _ List.mem_cons_self

theorem tail (told : Told kept s (intent :: rest)) :
    Told (kept ++ (Attempt.registration? (s, intent)).toList) (s.attempted intent) rest := by
  obtain ⟨first, later⟩ := List.pairwise_cons.mp told.made
  refine ⟨?_, later⟩
  intro k among stage reached
  rcases List.mem_append.mp among with before | new
  · exact told.kept k before stage (List.mem_cons_of_mem _ reached)
  · exact first stage reached k (Option.mem_toList.mp new)

end Told

/-- The same is seen of both runs at every attempt. -/
theorem Renamed.sights_eq {config : Config} {salts : SaltSource} {r : String → String}
    {kept : List Registration} {s t : Store} (related : Renamed config salts r kept s t)
    (injective : Function.Injective r) {intents : List Intent} (told : Told kept s intents)
    (told' : Told (kept.map (.rename r)) t (intents.map (.rename r))) :
    s.sights intents = t.sights (intents.map (.rename r)) := by
  induction intents generalizing kept s t with
  | nil => rfl
  | cons intent rest ih =>
      have here : ∀ k ∈ kept, (k.rename r).Discerns (t, intent.rename r) :=
        fun k among => told'.head _ (List.mem_map_of_mem among)
      have ended := related.attempt injective intent told.head here
      have later := told'.tail
      rw [related.registration?_rename ended, Option.toList_map, ← List.map_append] at later
      exact List.cons_eq_cons.mpr ⟨ended.sight_eq, ih (related.attempted ended) told.tail later⟩

/-- Nobody sees of passwords more than which of them are equal, provided that no password is
tried that is not the registered one but has its key. -/
theorem renamed_passwords_unseen (config : Config) (salts : SaltSource)
    (guards : List (Roster FailPoint)) (intents : List Intent) {r : String → String}
    (injective : Function.Injective r)
    (discerns : (stages attempted (blank config salts guards) intents).Pairwise Attempt.Discerns)
    (discerns' : (stages attempted (blank config salts guards)
      (intents.map (.rename r))).Pairwise Attempt.Discerns) :
    (blank config salts guards).sights (intents.map (.rename r)) =
      (blank config salts guards).sights intents := by
  have used := used_blank config salts guards
  have nobody {P : Registration → Prop} : ∀ k ∈ [], P k :=
    fun k among => absurd among List.not_mem_nil
  have beginning : Renamed config salts r [] (blank config salts guards)
      (blank config salts guards) :=
    ⟨used, used, ⟨rfl, rfl, rfl, rfl, rfl, nobody, rfl, rfl, rfl⟩⟩
  exact (beginning.sights_eq injective ⟨nobody, discerns⟩ ⟨nobody, discerns'⟩).symm

/-- Someone who registers, enters another password in a line, the right one in a header while no
session can be opened, and the other one again in a pair. -/
def visitor (password tried : String) : List Intent := [.register "Bob" password,
  .login .line "Bob" tried, .arm "db.add_session", .login .header "Bob" password,
  .login .pair "Bob" tried]

theorem discerns_visitor {password tried : String}
    (apart : Registration.TellsApart .fast
      ⟨"Bob", password, (blank .fast .counter [.empty]).nextSalt⟩ tried) :
    (stages attempted (blank .fast .counter [.empty]) (visitor password tried)).Pairwise
      Attempt.Discerns := by
  -- Only the first attempt registers somebody.
  have quiet : ∀ {attempt : Attempt} {rest : List Attempt},
      attempt.registration? = none → ∀ later ∈ rest, attempt.Discerns later :=
    fun none later _ => Attempt.discerns_of_none none later
  refine .cons ?_ (.cons (quiet rfl)
    (.cons (quiet rfl) (.cons (quiet rfl) (.cons (quiet rfl) .nil))))
  intro later reached k made
  have kept : k = ⟨"Bob", password, (blank .fast .counter [.empty]).nextSalt⟩ := by
    rw [Attempt.registration?_register] at made
    split at made
    · exact (Option.mem_some.mp made).symm
    · cases made
  subst kept
  have used := (used_blank .fast .counter [.empty]).attempted (.register "Bob" password)
  have settings : later.1.config = .fast := (used.of_mem_stages later reached).config_eq
  rcases List.mem_cons.mp reached with rfl | reached
  · intro _ _
    rw [settings]
    exact apart
  rcases List.mem_cons.mp reached with rfl | reached
  · trivial
  rcases List.mem_cons.mp reached with rfl | reached
  · exact fun _ _ other => absurd rfl other
  · obtain rfl := List.mem_singleton.mp reached
    intro _ _
    rw [settings]
    exact apart

/-- The renamed passwords look like headers. -/
theorem renamed_passwords_unseen_visitor :
    let r (password : String) := "Basic " ++ password
    let s := blank .fast .counter [.empty]
    Function.Injective r ∧
      (stages attempted s (visitor "a:b" "b")).Pairwise Attempt.Discerns ∧
      (stages attempted s ((visitor "a:b" "b").map (.rename r))).Pairwise Attempt.Discerns ∧
      s.sights ((visitor "a:b" "b").map (.rename r)) = s.sights (visitor "a:b" "b") := by
  intro r s
  have injective : Function.Injective r := by
    intro x y same
    exact String.append_right_inj _ |>.mp same
  have discerns : (stages attempted s (visitor "a:b" "b")).Pairwise Attempt.Discerns :=
    discerns_visitor (by decide +kernel)
  have renamed : (visitor "a:b" "b").map (.rename r) = visitor (r "a:b") (r "b") := rfl
  have discerns' : (stages attempted s ((visitor "a:b" "b").map (.rename r))).Pairwise
      Attempt.Discerns := by
    rw [renamed]
    exact discerns_visitor (by decide +kernel)
  exact ⟨injective, discerns, discerns', renamed_passwords_unseen .fast .counter [.empty]
    (visitor "a:b" "b") injective discerns discerns'⟩

end Store

end Gatekeeper
