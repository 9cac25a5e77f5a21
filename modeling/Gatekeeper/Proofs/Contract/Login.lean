import Gatekeeper.Proofs.Contract.Check
import Gatekeeper.Proofs.Store.Login
import Gatekeeper.Proofs.Store.Regular

/-!
# The contract of a login

The contract asks that a line without the separator is refused.  The header of the
Basic scheme is such a line, and it is read all the same, so every login with a header
is reported.  For all other lines the contract and the store agree: a login is refused
exactly if a condition holds before it, and otherwise everything holds that is promised.
-/

namespace Gatekeeper

namespace Contract

open Store

/-! ## Conditions -/

theorem triggers_iff {m : Memory} {line : String} :
    (∃ condition ∈ Operation.login.conditions, condition.Triggers m (.ofLine line)) ↔
      separator ∉ line.toList ∨ line.toList.head? = some separator := by
  simp [Operation.conditions, Condition.Triggers, Subject.ofLine, Subject.text]

theorem kind_of_mem_conditions {condition : Condition}
    (listed : condition ∈ Operation.login.conditions) :
    condition.kind = .malformedCredentials := by
  simp only [Operation.conditions, List.mem_cons, List.not_mem_nil, or_false] at listed
  rcases listed with rfl | rfl
  · rfl
  · rfl

/-! ## Judgements -/

variable {s : Store} {line : String}

/-- What a login promises, it keeps. -/
theorem posts_of_login (sound : s.backend.defects = .none) {c : Credentials}
    (marked : separator ∈ line.toList) (read : Credentials.parse line = .ok c) {granted : Bool}
    (result : (s.act (.call (.login (.line line)))).result = .ok (.flag granted)) :
    ∀ post ∈ Operation.login.postconditions,
      post.Holds (s.acted (.call (.login (.line line)))).backend.memory (.ofLine line)
        (.flag granted) := by
  have about : (Subject.ofLine line).user = c.user := Credentials.upTo_of_parse marked read
  intro post listed
  simp only [Operation.postconditions, List.mem_cons, List.not_mem_nil, or_false] at listed
  cases granted with
  | false =>
      rcases listed with rfl | rfl
      · exact .inl rfl
      · exact .inr rfl
  | true =>
      have shown : (Presented.line line).credentials = .ok c := read
      obtain ⟨known, live⟩ := of_login_granted sound shown result
      rw [← about] at known live
      rcases listed with rfl | rfl
      · exact .inr live
      · refine .inl ?_
        rw [users_acted_login sound]
        exact known

/-- A login with a header is reported whatever it ends with. -/
theorem check_of_encoded (sound : s.backend.defects = .none) (bare : s.backend.guards = [])
    (verifiable : s.backend.memory.Verifiable) (encoded : Credentials.Encoded line) :
    let subject := Subject.ofLine line
    let ended := s.act (.call subject.call)
    ∃ granted, ended.result = .ok (.flag granted) ∧
      subject.check s = .ok (⟨[subject.finding .missingError "MalformedCredentials"
        ("result=" ++ (Value.flag granted).describe)
        "Error 'missing_separator' should have triggered"], 1⟩, ended.store) := by
  intro subject ended
  obtain ⟨unmarked, c, read⟩ := encoded
  have shown : (Presented.line line).credentials = .ok c := read
  obtain ⟨granted, result⟩ := exists_result_login sound bare verifiable shown
  have first : firstTriggered s.backend.memory subject = some .missingSeparator := by
    have holds : Condition.missingSeparator.Triggers s.backend.memory subject := unmarked
    exact List.find?_cons_of_pos (decide_eq_true holds)
  refine ⟨granted, result, ?_⟩
  rw [Subject.check_of_ok subject result, first]
  rfl

theorem refused_iff_triggers (sound : s.backend.defects = .none) (bare : s.backend.guards = [])
    (verifiable : s.backend.memory.Verifiable) (other : ¬Credentials.Encoded line) :
    (∃ malformation, (s.act (.call (.login (.line line)))).result =
      .error (.malformed malformation)) ↔
    ∃ condition ∈ Operation.login.conditions,
      condition.Triggers s.backend.memory (.ofLine line) := by
  rw [triggers_iff, ← Credentials.parse_refused_iff other]
  constructor
  · rintro ⟨malformation, result⟩
    cases read : Credentials.parse line with
    | error malformation => exact ⟨malformation, rfl⟩
    | ok c =>
        have shown : (Presented.line line).credentials = .ok c := read
        obtain ⟨granted, answered⟩ := exists_result_login sound bare verifiable shown
        rw [result] at answered
        cases answered
  · rintro ⟨malformation, refused⟩
    exact ⟨malformation, result_login_of_refused refused⟩

/-- A login that no condition forbids is answered, and what is promised of it holds. -/
theorem answered_of_not_triggers (sound : s.backend.defects = .none)
    (bare : s.backend.guards = []) (verifiable : s.backend.memory.Verifiable)
    (allowed : ∀ condition ∈ Operation.login.conditions,
      ¬condition.Triggers s.backend.memory (.ofLine line)) :
    ∃ granted, (s.act (.call (.login (.line line)))).result = .ok (.flag granted) ∧
      ∀ post ∈ Operation.login.postconditions,
        post.Holds (s.acted (.call (.login (.line line)))).backend.memory (.ofLine line)
          (.flag granted) := by
  have free : ¬(separator ∉ line.toList ∨ line.toList.head? = some separator) := by
    rw [← triggers_iff (m := s.backend.memory)]
    rintro ⟨condition, listed, holds⟩
    exact allowed condition listed holds
  have marked : separator ∈ line.toList := Decidable.byContradiction fun h => free (.inl h)
  cases read : Credentials.parse line with
  | error malformation =>
      have other : ¬Credentials.Encoded line := fun encoded => encoded.1 marked
      exact absurd ((Credentials.parse_refused_iff other).mp ⟨malformation, read⟩) free
  | ok c =>
      have shown : (Presented.line line).credentials = .ok c := read
      obtain ⟨granted, result⟩ := exists_result_login sound bare verifiable shown
      exact ⟨granted, result, posts_of_login sound marked read result⟩

/-- Of any other login nothing is found where all rules hold afterwards. -/
theorem check_of_not_encoded (sound : s.backend.defects = .none) (bare : s.backend.guards = [])
    (verifiable : s.backend.memory.Verifiable) (other : ¬Credentials.Encoded line)
    (rules : ∀ rule : Rule,
      rule.Holds (s.acted (.call (.login (.line line)))).backend.memory) :
    (Subject.ofLine line).check s = .ok (⟨[], 1⟩, s.acted (.call (.login (.line line)))) := by
  refine (Subject.ofLine line).check_of_exact ?_ ?_ rules
  · intro condition listed holds
    obtain ⟨malformation, result⟩ :=
      (refused_iff_triggers sound bare verifiable other).mpr ⟨condition, listed, holds⟩
    exact ⟨.malformed malformation, result, (kind_of_mem_conditions listed).symm⟩
  · intro allowed
    obtain ⟨granted, result, posts⟩ := answered_of_not_triggers sound bare verifiable allowed
    exact ⟨.flag granted, result, posts⟩

/-! ## Logins after any run -/

/-- After every run of a store without guards, a login with a line that encodes its credentials is
answered and reported.  A login with any other line is refused as malformed exactly if a condition
of the contract holds before it, and otherwise answered with all that is promised; nothing is found
as long as no salt is drawn twice. -/
theorem login_judged (config : Config) (salts : SaltSource) (actions : List Action)
    (line : String) :
    let s := actions.foldl acted (blank config salts [])
    let subject := Subject.ofLine line
    let ended := s.act (.call subject.call)
    (Credentials.Encoded line → ∃ granted, ended.result = .ok (.flag granted) ∧
      subject.check s = .ok (⟨[subject.finding .missingError "MalformedCredentials"
        ("result=" ++ (Value.flag granted).describe)
        "Error 'missing_separator' should have triggered"], 1⟩, ended.store)) ∧
    (¬Credentials.Encoded line →
      ((∃ malformation, ended.result = .error (.malformed malformation)) ↔
        ∃ condition ∈ Operation.login.conditions,
          condition.Triggers s.backend.memory subject) ∧
      ((∀ condition ∈ Operation.login.conditions, ¬condition.Triggers s.backend.memory subject) →
        ∃ granted, ended.result = .ok (.flag granted) ∧
          ∀ post ∈ Operation.login.postconditions,
            post.Holds ended.store.backend.memory subject (.flag granted)) ∧
      (∀ rule : Rule, rule ≠ .hashesUnique → rule.Holds ended.store.backend.memory) ∧
      (salts.Distinct config.saltBytes s.draws →
        subject.check s = .ok (⟨[], 1⟩, ended.store))) := by
  intro s subject ended
  have sound : s.backend.defects = .none := (@used_run config salts [] actions).defects
  have bare : s.backend.guards = [] := guards_run config salts actions
  have regular : s.backend.memory.Regular s.config := by
    rw [(@used_run config salts [] actions).config_eq]
    exact regular_run salts [] actions
  have after : ended.store.backend.memory.Regular s.config := regular_acted sound regular _
  refine ⟨check_of_encoded sound bare regular.verifiable, ?_⟩
  intro other
  refine ⟨refused_iff_triggers sound bare regular.verifiable other,
    answered_of_not_triggers sound bare regular.verifiable, ?_, ?_⟩
  · intro rule salted
    exact after.holds fun same => absurd same salted
  · intro distinct
    have users : ended.store.backend.memory.users = s.backend.memory.users :=
      users_acted_login sound _
    have unique : s.backend.memory.users.values.Nodup := nodup_values_run [] actions distinct
    refine check_of_not_encoded sound bare regular.verifiable other fun rule => ?_
    exact after.holds fun _ => users ▸ unique

def aliceHeader : String := "Basic YWxpY2U6cHcx"

theorem encoded_aliceHeader : Credentials.Encoded aliceHeader :=
  Credentials.encoded_of_basicHeader (by decide)
    (show Credentials.basicHeader "alice" "pw1" = .ok aliceHeader from rfl)

def aliceRegisters : List Action := [.call (.register "alice" ⟨"pw1"⟩)]

/-- Of one user's two ways to log in, one is reported. -/
theorem login_judged_alice :
    let s := aliceRegisters.foldl acted (blank .fast .counter [])
    (∃ finding s', (Subject.ofLine aliceHeader).check s = .ok (⟨[finding], 1⟩, s')) ∧
      ∃ s', (Subject.ofLine "alice:pw1").check s = .ok (⟨[], 1⟩, s') := by
  intro s
  obtain ⟨granted, -, reported⟩ :=
    (login_judged .fast .counter aliceRegisters aliceHeader).1 encoded_aliceHeader
  have plain : ¬Credentials.Encoded "alice:pw1" := fun encoded => encoded.1 (by decide)
  have judged := (login_judged .fast .counter aliceRegisters "alice:pw1").2 plain
  have few := draws_run_le .fast .counter [] aliceRegisters
  have distinct := SaltSource.counter_distinct
    (Nat.lt_of_le_of_lt few (show 1 < Nat.pow 256 Config.fast.saltBytes by decide))
  exact ⟨⟨_, _, reported⟩, _, judged.2.2.2 distinct⟩

/-- Not every login passes the check. -/
theorem header_login_reported :
    ¬∀ (actions : List Action) (line : String),
      let s := actions.foldl acted (blank .fast .counter [])
      ∃ s', (Subject.ofLine line).check s = .ok (⟨[], 1⟩, s') := by
  intro passes
  have used := @used_run .fast .counter [] aliceRegisters
  have regular := @regular_run .fast .counter [] aliceRegisters
  obtain ⟨granted, -, reported⟩ := check_of_encoded used.defects
    (guards_run .fast .counter aliceRegisters) regular.verifiable encoded_aliceHeader
  obtain ⟨s', passed⟩ := passes aliceRegisters aliceHeader
  have same := reported.symm.trans passed
  cases same

end Contract

end Gatekeeper
