import Gatekeeper.Proofs.Run
import Gatekeeper.Proofs.Simulation.Aligned
import Gatekeeper.Proofs.Template.Render

/-!
# A store refines the oracle

Whatever a store and an oracle are asked, one question after the other, every
question has the same outcome on both sides and leaves the same users, sessions
and armed fail points behind.
-/

namespace Gatekeeper

open Run

namespace Lockstep

def posed (l : Lockstep) (question : Oracle.Question) : Lockstep := (l.pose question).2

def guarded (config : Config) (salts : SaltSource) : Lockstep :=
  .start { config, salts, backend := .guarded }

/-- Every question of a run has one outcome on both sides, be it a value or the kind of a
refusal, and leaves the same users, sessions and armed fail points. -/
theorem pose_agrees_and_inStep (config : Config) (salts : SaltSource)
    (questions : List Oracle.Question) (bound : config.hashIterations ≤ Hash.Pbkdf2.maxIterations)
    (admissible : ∀ question ∈ questions, Admissible config question)
    (discerns : ∀ stage ∈ stages posed (guarded config salts) questions,
      stage.1.Discerns stage.2) :
    ∀ stage ∈ stages posed (guarded config salts) questions,
      (∃ outcome, (stage.1.pose stage.2).1 = .ok ⟨outcome, outcome⟩) ∧
        (stage.1.posed stage.2).InStep := by
  refine stages_induction (Aligned config)
    (fun l question => Admissible config question ∧ l.Discerns question)
    (fun l question => (∃ outcome, (l.pose question).1 = .ok ⟨outcome, outcome⟩) ∧
      (l.posed question).InStep) ?_ (Aligned.start config salts) ?_
  · intro l question aligned allowed
    obtain ⟨outcome, agree, after⟩ := matches_of_admissible aligned bound allowed.1 allowed.2
    exact ⟨⟨⟨outcome, agree⟩, after.inStep⟩, after⟩
  · intro stage reached
    exact ⟨admissible stage.2 (mem_of_mem_stages reached), discerns stage reached⟩

def quick : Config := { Config.standard with hashIterations := 1, iterations_pos := Nat.le_refl 1 }

/-- A user who registers, tries a part of the password and then the whole of it, after which
no secret can be read. -/
def visit : List Oracle.Question := [.register "Bob" "a:b", .login "Bob:a", .login "Bob:a:b",
  .arm FailPoint.hasSession.name]

theorem pose_agrees_and_inStep_visit :
    (∀ stage ∈ stages posed (guarded quick .counter) (visit ++ [.accessSecret "Bob"]),
      stage.1.Discerns stage.2) ∧
    (∃ outcome, ((visit.foldl posed (guarded quick .counter)).pose (.accessSecret "Bob")).1 =
      .ok ⟨outcome, outcome⟩) ∧
    ((visit.foldl posed (guarded quick .counter)).posed (.accessSecret "Bob")).InStep := by
  have discerns : ∀ stage ∈ stages posed (guarded quick .counter)
      (visit ++ [.accessSecret "Bob"]), stage.1.Discerns stage.2 := by
    decide +kernel
  have admissible : ∀ question ∈ visit ++ [.accessSecret "Bob"], Admissible quick question := by
    intro question asked
    simp only [visit, List.cons_append, List.nil_append, List.mem_cons, List.not_mem_nil,
      or_false] at asked
    rcases asked with rfl | rfl | rfl | rfl | rfl
    · trivial
    · exact Credentials.plain_of_separator_mem (by decide)
    · exact Credentials.plain_of_separator_mem (by decide)
    · exact ⟨.hasSession, rfl⟩
    · exact ⟨_, Template.render_standard "Bob"⟩
  have reached : (visit.foldl posed (guarded quick .counter), .accessSecret "Bob") ∈
      stages posed (guarded quick .counter) (visit ++ [.accessSecret "Bob"]) :=
    mem_stages_append (guarded quick .counter) visit (.accessSecret "Bob") []
  refine ⟨discerns, ?_⟩
  -- Otherwise the state that is reached would be computed.
  generalize visit.foldl posed (guarded quick .counter) = midway at reached ⊢
  exact pose_agrees_and_inStep quick .counter (visit ++ [.accessSecret "Bob"]) (by decide)
    admissible discerns (midway, .accessSecret "Bob") reached

end Lockstep

end Gatekeeper
