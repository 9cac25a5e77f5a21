import Gatekeeper.Proofs.Store.History
import Gatekeeper.Proofs.Store.Relation

/-!
# Users do not interfere

What the calls that concern a user end with, and what is stored about the user in the
end, does not depend on the calls that concern anybody else: a run in which these
calls are left out shows the user the same, as long as every registration of the user
draws the salt that it draws in the whole run.
-/

namespace Gatekeeper

open Run

/-! ## Calls that concern a user -/

def Call.Concerns (call : Call) (user : String) : Prop := call.about.toOption = some user

instance (call : Call) (user : String) : Decidable (call.Concerns user) :=
  inferInstanceAs (Decidable (_ = _))

theorem Call.concerns_iff {call : Call} {user : String} :
    call.Concerns user ↔ call.about = .ok user := by
  rw [Concerns]
  cases call.about with
  | ok other => simp [Except.toOption]
  | error malformation => simp [Except.toOption]

def Action.Stays (user : String) : Action → Prop
  | .call made => made.Concerns user
  | .arm _ | .disarm _ | .reset => True

instance (user : String) : (action : Action) → Decidable (action.Stays user)
  | .call made => inferInstanceAs (Decidable (made.Concerns user))
  | .arm _ | .disarm _ | .reset => .isTrue trivial

/-! ## Backends that are alike to a user -/

/-- Backends without defects that show a user the same. -/
structure Backend.Alike (user : String) (b c : Backend) : Prop where
  guards : b.guards = c.guards
  left : b.defects = .none
  right : c.defects = .none
  stored : b.memory.users.get? user = c.memory.users.get? user
  live : user ∈ b.memory.sessions ↔ user ∈ c.memory.sessions

namespace Store

open Activity

/-- The calls of a user cannot tell apart backends that are alike, and neither methods nor guards
draw a salt. -/
theorem unseen_alike (user : String) (drawn drawn' : Nat) :
    Unseen (fun p q => p.backend.Alike user q.backend ∧ p.draws = drawn ∧ q.draws = drawn')
      user where
  guards := fun related => related.1.guards
  stored := fun related => related.1.stored
  live := by
    rintro p q ⟨alike, -⟩
    rw [alike.left, alike.right, Defects.hasSession_none, Defects.hasSession_none]
    exact decide_eq_decide.mpr alike.live
  noted := fun _ related => related
  guarded := by
    rintro p q guards ⟨alike, draws⟩
    exact ⟨⟨rfl, alike.left, alike.right, alike.stored, alike.live⟩, draws⟩
  opened := by
    rintro p q ⟨alike, draws⟩
    rw [alike.left, alike.right, Defects.addSession_none, Defects.addSession_none]
    refine ⟨⟨alike.guards, alike.left, alike.right, alike.stored, ?_⟩, draws⟩
    exact Roster.mem_insert.trans ((or_congr_left alike.live).trans Roster.mem_insert.symm)
  closed := by
    rintro p q ⟨alike, draws⟩
    rw [alike.left, alike.right, Defects.removeSession_none, Defects.removeSession_none]
    refine ⟨⟨alike.guards, alike.left, alike.right, alike.stored, ?_⟩, draws⟩
    exact Roster.mem_erase.trans ((and_congr_right fun _ => alike.live).trans
      Roster.mem_erase.symm)

/-- A call for somebody else does not change what a user is shown. -/
theorem Effect.alike {config : Config} {salts : SaltSource} {p p' : Progress} {call : Call}
    {result : Except Failure Value} (effect : Effect config salts p call result p')
    {user : String} (other : ¬call.Concerns user) {c : Backend} (alike : p.backend.Alike user c) :
    p'.backend.Alike user c := by
  rw [Call.concerns_iff] at other
  cases effect with
  | failed backend | looked backend =>
      rw [backend]
      exact alike
  | @registered name password hash _ wellFormed absent hashed backend =>
      have elsewhere : name ≠ user := by
        rintro rfl
        exact other (UserId.check_of_wellFormed wellFormed)
      rw [backend]
      refine ⟨alike.guards, alike.left, alike.right, ?_, alike.live⟩
      rw [Directory.get?_insert, if_neg elsewhere]
      exact alike.stored
  | @opened presented credentials _ _ read found matching backend =>
      have elsewhere : user ≠ credentials.user := by
        rintro rfl
        exact other (by rw [Call.about, read])
      rw [backend]
      refine ⟨alike.guards, alike.left, alike.right, alike.stored, ?_⟩
      rw [Roster.mem_insert, or_iff_left elsewhere]
      exact alike.live
  | @closed name _ wellFormed backend =>
      have elsewhere : user ≠ name := by
        rintro rfl
        exact other (UserId.check_of_wellFormed wellFormed)
      rw [backend]
      refine ⟨alike.guards, alike.left, alike.right, alike.stored, ?_⟩
      rw [Roster.mem_erase, and_iff_right elsewhere]
      exact alike.live

section Registration

variable (config : Config) (salts : SaltSource) {user : String} (password : Password)
  {p : Progress}

/-- A registration that finds nothing in its way draws a salt. -/
theorem draws_register (sound : p.backend.defects = .none) (formed : UserId.WellFormed user)
    (unarmed : ¬p.backend.isArmed .getPassword = true)
    (absent : p.backend.memory.users.get? user = none) :
    ((activity config salts (.register user password)).outcome p).2.draws = p.draws + 1 := by
  rw [outcome_register config salts sound, UserId.check_of_wellFormed formed]
  dsimp only
  rw [if_neg unarmed, absent]
  dsimp only
  cases password.hash (salts.draw (p.draws + 1) config.saltBytes) config.hashIterations with
  | error fault => rfl
  | ok hash =>
      dsimp only
      by_cases armed : p.backend.isArmed .register = true
      · rw [if_pos armed]
        rfl
      · rw [if_neg armed]
        rfl

/-- Where one registration draws a salt, so does the other; if it is the same, so is the rest. -/
theorem register_alike (salts' : SaltSource) {q : Progress}
    (alike : p.backend.Alike user q.backend) :
    let ended := (activity config salts (.register user password)).outcome p
    let ended' := (activity config salts' (.register user password)).outcome q
    (ended.2.draws = p.draws ∧ ended'.2.draws = q.draws ∧ ended.1 = ended'.1 ∧
        ended.2.backend.Alike user ended'.2.backend) ∨
      (ended.2.draws = p.draws + 1 ∧ ended'.2.draws = q.draws + 1 ∧
        (salts.draw (p.draws + 1) config.saltBytes = salts'.draw (q.draws + 1) config.saltBytes →
          ended.1 = ended'.1 ∧ ended.2.backend.Alike user ended'.2.backend)) := by
  intro ended ended'
  have armed : p.backend.isArmed = q.backend.isArmed := by
    funext point
    rw [Backend.isArmed, Backend.isArmed, alike.guards]
  have first : ended = _ := outcome_register config salts alike.left user password
  have second : ended' = _ := outcome_register config salts' alike.right user password
  cases checked : UserId.check user with
  | error malformation =>
      rw [checked] at first second
      rw [first, second]
      exact .inl ⟨rfl, rfl, rfl, alike⟩
  | ok id =>
      obtain ⟨formed, rfl⟩ := UserId.check_eq_ok_iff.mp checked
      by_cases asking : q.backend.isArmed .getPassword = true
      · simp only [checked, armed, if_pos asking] at first second
        rw [first, second]
        exact .inl ⟨rfl, rfl, rfl, alike⟩
      · cases found : q.backend.memory.users.get? id with
        | some stored =>
            simp only [checked, armed, if_neg asking, alike.stored, found] at first second
            rw [first, second]
            exact .inl ⟨rfl, rfl, rfl, alike⟩
        | none =>
            have absent : p.backend.memory.users.get? id = none := alike.stored.trans found
            refine .inr
              ⟨draws_register config salts password alike.left formed (armed ▸ asking) absent,
              draws_register config salts' password alike.right formed asking found, ?_⟩
            intro salt
            simp only [checked, armed, if_neg asking, absent, found, salt] at first second
            rw [first, second]
            cases password.hash (salts'.draw (q.draws + 1) config.saltBytes)
                config.hashIterations with
            | error fault => exact ⟨rfl, alike⟩
            | ok hash =>
                dsimp only
                by_cases entering : q.backend.isArmed .register = true
                · rw [if_pos entering, if_pos entering]
                  exact ⟨rfl, alike⟩
                · rw [if_neg entering, if_neg entering]
                  refine ⟨rfl, alike.guards, alike.left, alike.right, ?_, alike.live⟩
                  show (p.backend.memory.users.insert id (.hashed hash)).get? id =
                    (q.backend.memory.users.insert id (.hashed hash)).get? id
                  rw [Directory.get?_insert, Directory.get?_insert, if_pos rfl, if_pos rfl]

end Registration

end Store

/-! ## Runs -/

/-- After so many draws a source gives the salts of a list, one after the other. -/
def SaltSource.Supplies (salts : SaltSource) (length : Nat) : Nat → List (List UInt8) → Prop
  | _, [] => True
  | draws, salt :: rest =>
      salts.draw (draws + 1) length = salt ∧ salts.Supplies length (draws + 1) rest

def SaltSource.ofList (drawn : List (List UInt8)) : SaltSource :=
  ⟨fun number _ => drawn.getD (number - 1) []⟩

theorem SaltSource.supplies_ofList (length : Nat) (drawn : List (List UInt8)) :
    (ofList drawn).Supplies length 0 drawn := by
  -- The salts before are those that were drawn already.
  have later : ∀ before after, (ofList (before ++ after)).Supplies length before.length after := by
    intro before after
    induction after generalizing before with
    | nil => trivial
    | cons salt rest ih =>
        have next : (before ++ salt :: rest).getD (before.length + 1 - 1) [] = salt := by simp
        have further := ih (before ++ [salt])
        rw [List.append_assoc, List.length_append] at further
        exact ⟨next, further⟩
  exact later [] drawn

namespace Store

def Stage.salts (stage : Stage) : List (List UInt8) :=
  if (stage.1.acted stage.2).draws = stage.1.draws then []
  else [stage.1.salts.draw (stage.1.draws + 1) stage.1.config.saltBytes]

def staying (user : String) (stages : List Stage) : List Stage :=
  stages.filter fun stage => stage.2.Stays user

def alone (user : String) (actions : List Action) : List Action :=
  actions.filter fun action => action.Stays user

def saltsDrawn (stages : List Stage) : List (List UInt8) := stages.flatMap Stage.salts

def shown (stages : List Stage) : List (Action × Except Failure Value) :=
  stages.map fun stage => (stage.2, stage.result)

/-- Stores with the same settings over backends that are alike to a user. -/
structure Alike (user : String) (s t : Store) : Prop where
  config : s.config = t.config
  backend : s.backend.Alike user t.backend

variable {user : String} {s t : Store} {action : Action}

theorem Alike.act_leaving (alike : s.Alike user t) (leaves : ¬action.Stays user) :
    (s.acted action).Alike user t where
  config := (acted_config s action).trans alike.config
  backend := by
    cases action with
    | call call =>
        have effect := effect_outcome s.config s.salts (p := s.progress) alike.backend.left call
        exact effect.alike leaves alike.backend
    | arm name | disarm name | reset => exact absurd trivial leaves

def SameAfter (user : String) (s t : Store) (action : Action) : Prop :=
  Stage.result (s, action) = Stage.result (t, action) ∧
    (s.acted action).backend.Alike user (t.acted action).backend

theorem Alike.run {α : Type} (alike : s.Alike user t) {activity : Activity α}
    (respects : activity.Respects fun p q =>
      p.backend.Alike user q.backend ∧ p.draws = s.draws ∧ q.draws = t.draws) :
    (s.run activity).result = (t.run activity).result ∧
      (s.run activity).store.backend.Alike user (t.run activity).store.backend ∧
      (s.run activity).store.draws = s.draws ∧ (t.run activity).store.draws = t.draws :=
  respects s.progress t.progress ⟨alike.backend, rfl, rfl⟩

theorem activity_of_saltless (config : Config) (salts salts' : SaltSource) {call : Call}
    (saltless : ∀ name password, call ≠ .register name password) :
    activity config salts call = activity config salts' call := by
  cases call with
  | register name password => exact absurd rfl (saltless name password)
  | login presented | logout name | isLoggedIn name | accessSecret name => rfl

theorem Alike.act_arming (alike : s.Alike user t) (arms : ∀ call, action ≠ .call call) :
    (s.acted action).draws = s.draws ∧ (t.acted action).draws = t.draws ∧
      SameAfter user s t action := by
  obtain ⟨activity, respects, made⟩ := (unseen_alike user s.draws t.draws).session.arming arms
  obtain ⟨same, after, draws, draws'⟩ := alike.run respects
  rw [SameAfter, Stage.result, Stage.result, Store.acted, Store.acted, made, made]
  exact ⟨draws, draws', congrArg (Except.map fun _ => Value.done) same, after⟩

theorem Alike.act_register (alike : s.Alike user t) (password : Password) :
    ((s.acted (.call (.register user password))).draws = s.draws ∧
        (t.acted (.call (.register user password))).draws = t.draws ∧
        SameAfter user s t (.call (.register user password))) ∨
      ((s.acted (.call (.register user password))).draws = s.draws + 1 ∧
        (t.acted (.call (.register user password))).draws = t.draws + 1 ∧
        (s.salts.draw (s.draws + 1) s.config.saltBytes =
            t.salts.draw (t.draws + 1) t.config.saltBytes →
          SameAfter user s t (.call (.register user password)))) := by
  obtain ⟨_, salts', draws', backend'⟩ := t
  obtain ⟨rfl, backend⟩ := alike
  exact register_alike s.config s.salts password (p := s.progress) salts'
    (q := { backend := backend', draws := draws' }) backend

theorem Alike.act_saltless (alike : s.Alike user t) {call : Call} (concerns : call.Concerns user)
    (saltless : ∀ name password, call ≠ .register name password) :
    (s.acted (.call call)).draws = s.draws ∧ (t.acted (.call call)).draws = t.draws ∧
      SameAfter user s t (.call call) := by
  have respects := (unseen_alike user s.draws t.draws).activity s.config s.salts
    (Call.concerns_iff.mp concerns) saltless
  obtain ⟨same, after, draws, draws'⟩ := alike.run respects
  have performed : t.act (.call call) = t.run (activity s.config s.salts call) := by
    rw [activity_of_saltless s.config s.salts t.salts saltless, alike.config]
    rfl
  rw [SameAfter, Stage.result, Stage.result, Store.acted, Store.acted, performed]
  exact ⟨draws, draws', same, after⟩

/-- What stays draws from both sources or from neither, and ends the same if the salts are. -/
theorem Alike.act_cases (alike : s.Alike user t) (stays : action.Stays user) :
    ((s.acted action).draws = s.draws ∧ (t.acted action).draws = t.draws ∧
        SameAfter user s t action) ∨
      ((s.acted action).draws = s.draws + 1 ∧ (t.acted action).draws = t.draws + 1 ∧
        (s.salts.draw (s.draws + 1) s.config.saltBytes =
            t.salts.draw (t.draws + 1) t.config.saltBytes → SameAfter user s t action)) := by
  cases action with
  | arm name | disarm name | reset => exact .inl (alike.act_arming nofun)
  | call call =>
      by_cases registers : ∃ name password, call = .register name password
      · obtain ⟨name, password, rfl⟩ := registers
        obtain ⟨-, rfl⟩ := UserId.check_eq_ok_iff.mp (Call.concerns_iff.mp stays)
        exact alike.act_register password
      · refine .inl (alike.act_saltless stays ?_)
        intro name password same
        exact registers ⟨name, password, same⟩

theorem Stage.salts_of_eq (idle : (s.acted action).draws = s.draws) :
    Stage.salts (s, action) = [] := if_pos idle

theorem Stage.salts_of_succ (drawn : (s.acted action).draws = s.draws + 1) :
    Stage.salts (s, action) = [s.salts.draw (s.draws + 1) s.config.saltBytes] := by
  have more : (s.acted action).draws ≠ s.draws := by omega
  exact if_neg more

theorem Alike.act_staying (alike : s.Alike user t) (stays : action.Stays user)
    {later : List (List UInt8)}
    (supplied : t.salts.Supplies t.config.saltBytes t.draws (Stage.salts (s, action) ++ later)) :
    Stage.result (s, action) = Stage.result (t, action) ∧
      Stage.salts (s, action) = Stage.salts (t, action) ∧
      (s.acted action).Alike user (t.acted action) ∧
      (t.acted action).salts.Supplies (t.acted action).config.saltBytes (t.acted action).draws
        later := by
  have config : (s.acted action).config = (t.acted action).config := by
    rw [acted_config, acted_config, alike.config]
  have source : (t.acted action).salts = t.salts := act_salts t action
  rw [source, acted_config]
  rcases alike.act_cases stays with ⟨idle, idle', same⟩ | ⟨drawn, drawn', same⟩
  · rw [Stage.salts_of_eq idle] at supplied ⊢
    rw [Stage.salts_of_eq idle', idle']
    exact ⟨same.1, rfl, ⟨config, same.2⟩, supplied⟩
  · rw [Stage.salts_of_succ drawn] at supplied ⊢
    rw [Stage.salts_of_succ drawn', drawn']
    obtain ⟨salt, rest⟩ := supplied
    have same := same salt.symm
    exact ⟨same.1, by rw [salt], ⟨config, same.2⟩, rest⟩

theorem staying_cons_of_stays {stage : Stage} (stays : stage.2.Stays user)
    (later : List Stage) : staying user (stage :: later) = stage :: staying user later :=
  List.filter_cons_of_pos (decide_eq_true stays)

theorem staying_cons_of_leaves {stage : Stage} (leaves : ¬stage.2.Stays user)
    (later : List Stage) : staying user (stage :: later) = staying user later :=
  List.filter_cons_of_neg (by simpa using leaves)

theorem alone_cons_of_stays (stays : action.Stays user) (later : List Action) :
    alone user (action :: later) = action :: alone user later :=
  List.filter_cons_of_pos (decide_eq_true stays)

theorem alone_cons_of_leaves (leaves : ¬action.Stays user) (later : List Action) :
    alone user (action :: later) = alone user later :=
  List.filter_cons_of_neg (by simpa using leaves)

/-- A whole run and the one that stays for a user show the user the same. -/
theorem alike_runs (alike : s.Alike user t) (actions : List Action)
    (supplied : t.salts.Supplies t.config.saltBytes t.draws
      (saltsDrawn (staying user (stages acted s actions)))) :
    shown (staying user (stages acted s actions)) =
        shown (stages acted t (alone user actions)) ∧
      saltsDrawn (staying user (stages acted s actions)) =
        saltsDrawn (stages acted t (alone user actions)) ∧
      (actions.foldl acted s).Alike user ((alone user actions).foldl acted t) := by
  induction actions generalizing s t with
  | nil => exact ⟨rfl, rfl, alike⟩
  | cons action rest ih =>
      rw [stages] at supplied ⊢
      by_cases stays : action.Stays user
      · rw [staying_cons_of_stays stays] at supplied ⊢
        rw [alone_cons_of_stays stays, stages]
        obtain ⟨result, salts, after, supplied⟩ := alike.act_staying stays supplied
        obtain ⟨same, drawn, ends⟩ := ih after supplied
        refine ⟨?_, ?_, ends⟩
        · exact List.cons_eq_cons.mpr ⟨Prod.ext rfl result, same⟩
        · show Stage.salts (s, action) ++ _ = Stage.salts (t, action) ++ _
          rw [salts]
          exact congrArg _ drawn
      · rw [staying_cons_of_leaves stays] at supplied ⊢
        rw [alone_cons_of_leaves stays]
        exact ih (alike.act_leaving stays) supplied

/-- What the calls for a user end with, and what is stored about the user, is the same if the
calls that concern nobody or somebody else are left out. -/
theorem users_do_not_interfere (config : Config) (salts own : SaltSource)
    (guards : List (Roster FailPoint)) (actions : List Action) (user : String)
    (supplied : own.Supplies config.saltBytes 0
      (saltsDrawn (staying user (stages acted (blank config salts guards) actions)))) :
    let together := stages acted (blank config salts guards) actions
    let apart := stages acted (blank config own guards) (alone user actions)
    let s := actions.foldl acted (blank config salts guards)
    let t := (alone user actions).foldl acted (blank config own guards)
    shown (staying user together) = shown apart ∧
      saltsDrawn (staying user together) = saltsDrawn apart ∧
      s.backend.memory.users.get? user = t.backend.memory.users.get? user ∧
      (s.IsLoggedIn user ↔ t.IsLoggedIn user) := by
  intro together apart s t
  have beginning : (blank config salts guards).Alike user (blank config own guards) :=
    ⟨rfl, ⟨rfl, rfl, rfl, rfl, Iff.rfl⟩⟩
  obtain ⟨same, drawn, ends⟩ := alike_runs beginning actions supplied
  exact ⟨same, drawn, ends.backend.stored, ends.backend.live⟩

/-- A user among others, one of whom registers first, and guards that are armed in between. -/
def crowd : List Action := [.call (.register "Carol" ⟨"pw"⟩), .call (.register "Bob" ⟨"a"⟩),
  .arm "db.get_pw", .call (.login (.line "Bob:a")), .call (.login (.line "Carol:pw")), .reset,
  .call (.logout "a:b"), .call (.login (.line "Bob:a")), .call (.logout "Carol")]

theorem users_do_not_interfere_crowd :
    let own := SaltSource.ofList
      (saltsDrawn (staying "Bob" (stages acted (blank .fast .counter [.empty]) crowd)))
    own.Supplies Config.fast.saltBytes 0
        (saltsDrawn (staying "Bob" (stages acted (blank .fast .counter [.empty]) crowd))) ∧
      alone "Bob" crowd = [.call (.register "Bob" ⟨"a"⟩), .arm "db.get_pw",
        .call (.login (.line "Bob:a")), .reset, .call (.login (.line "Bob:a"))] ∧
      (crowd.foldl acted (blank .fast .counter [.empty])).IsLoggedIn "Bob" ∧
      ((alone "Bob" crowd).foldl acted (blank .fast own [.empty])).IsLoggedIn "Bob" := by
  intro own
  have supplied : own.Supplies Config.fast.saltBytes 0 _ := SaltSource.supplies_ofList _ _
  have kept : alone "Bob" crowd = [.call (.register "Bob" ⟨"a"⟩), .arm "db.get_pw",
      .call (.login (.line "Bob:a")), .reset, .call (.login (.line "Bob:a"))] := by
    decide +kernel
  have live : (crowd.foldl acted (blank .fast .counter [.empty])).IsLoggedIn "Bob" := by
    decide +kernel
  have same := users_do_not_interfere .fast .counter own [.empty] crowd "Bob" supplied
  exact ⟨supplied, kept, live, same.2.2.2.mp live⟩

end Store

end Gatekeeper
