import Gatekeeper.Contract.Finding
import Gatekeeper.Proofs.Store.Reachable

/-!
# How a call is judged

A check finds nothing if the call is refused with the kind of the condition that holds
before it, or if none holds and every postcondition and every rule holds afterwards.
-/

namespace Gatekeeper

theorem Report.failures_eq_nil_iff {r : Report} : r.failures = [] ↔ r.passed = true := by
  simp [failures, passed]

namespace Contract

theorem firstTriggered_eq_none_iff {m : Memory} {subject : Subject} :
    firstTriggered m subject = none ↔
      ∀ condition ∈ subject.operation.conditions, ¬condition.Triggers m subject := by
  simp [firstTriggered]

theorem of_firstTriggered {m : Memory} {subject : Subject} {condition : Condition}
    (first : firstTriggered m subject = some condition) :
    condition ∈ subject.operation.conditions ∧ condition.Triggers m subject := by
  have found := List.find?_some first
  exact ⟨List.mem_of_find?_eq_some first, of_decide_eq_true found⟩

namespace Subject

variable {subject : Subject} {s : Store}

/-! ## Judgements -/

theorem judgeMemory_eq_nil {m : Memory} {value : Value}
    (posts : ∀ post ∈ subject.operation.postconditions, post.Holds m subject value)
    (rules : ∀ rule : Rule, rule.Holds m) : subject.judgeMemory m value = [] := by
  have kept : (Report.ofMemory m).failures = [] :=
    Report.failures_eq_nil_iff.mpr (Report.passed_ofMemory.mpr rules)
  have broken : subject.operation.postconditions.filter
      (fun post => decide (¬post.Holds m subject value)) = [] := by
    rw [List.filter_eq_nil_iff]
    intro post listed
    simpa using posts post listed
  rw [judgeMemory, kept, broken]
  rfl

theorem judgeRefusal_eq_nil {condition : Condition} {refusal : Refusal}
    (kind : refusal.kind = condition.kind) :
    subject.judgeRefusal (some condition) refusal = [] := by
  rw [judgeRefusal, if_pos kind]

/-! ## Checks -/

theorem check_of_ok (subject : Subject) {value : Value}
    (returned : (s.act (.call subject.call)).result = .ok value) :
    subject.check s =
      .ok (⟨subject.judgeValue (firstTriggered s.backend.memory subject)
        (s.acted (.call subject.call)).backend.memory value, 1⟩, s.acted (.call subject.call)) := by
  have returned : (s.perform subject.call).result = .ok value := returned
  simp only [check, returned]
  rfl

theorem check_of_refused (subject : Subject) {refusal : Refusal}
    (refused : (s.act (.call subject.call)).result = .error (.refused refusal)) :
    subject.check s =
      .ok (⟨subject.judgeRefusal (firstTriggered s.backend.memory subject) refusal, 1⟩,
        s.acted (.call subject.call)) := by
  have refused : (s.perform subject.call).result = .error (.refused refusal) := refused
  simp only [check, refused]
  rfl

/-- Nothing is found of a call that is refused with the kind of every condition that holds before
it, and that otherwise returns and keeps what is promised of it. -/
theorem check_of_exact (subject : Subject)
    (refused : ∀ condition ∈ subject.operation.conditions,
      condition.Triggers s.backend.memory subject →
        ∃ refusal, (s.act (.call subject.call)).result = .error (.refused refusal) ∧
          refusal.kind = condition.kind)
    (answered : (∀ condition ∈ subject.operation.conditions,
      ¬condition.Triggers s.backend.memory subject) →
        ∃ value, (s.act (.call subject.call)).result = .ok value ∧
          ∀ post ∈ subject.operation.postconditions,
            post.Holds (s.acted (.call subject.call)).backend.memory subject value)
    (rules : ∀ rule : Rule, rule.Holds (s.acted (.call subject.call)).backend.memory) :
    subject.check s = .ok (⟨[], 1⟩, s.acted (.call subject.call)) := by
  cases first : firstTriggered s.backend.memory subject with
  | none =>
      obtain ⟨value, result, posts⟩ := answered (firstTriggered_eq_none_iff.mp first)
      rw [check_of_ok subject result, first]
      exact congrArg (fun found => Except.ok (Tally.mk found 1, _))
        (judgeMemory_eq_nil posts rules)
  | some condition =>
      obtain ⟨listed, holds⟩ := of_firstTriggered first
      obtain ⟨refusal, result, kind⟩ := refused condition listed holds
      rw [check_of_refused subject result, first, judgeRefusal_eq_nil kind]

end Subject

end Contract

end Gatekeeper
