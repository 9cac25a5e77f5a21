import Gatekeeper.Proofs.Simulation.Entrants
import Gatekeeper.Proofs.Simulation.Oracle
import Gatekeeper.Simulation.Lockstep

/-!
# Whom the oracle registers

A list of operations has the oracle register all that the list enters, as long as
neither fail point on the way of a registration is armed, and nobody once one is.  An
operation has it register one user at most.
-/

namespace Gatekeeper

open Operation

/-! ## Oracles -/

namespace Oracle

/-- A question that neither registers nor arms changes sessions at most. -/
theorem ask_keeps (o : Oracle) {question : Question}
    (registers : ∀ user password, question ≠ .register user password)
    (arms : ∀ name, question ≠ .arm name) :
    (o.ask question).2.users = o.users ∧ (o.ask question).2.armed = o.armed := by
  cases question with
  | register user password => exact absurd rfl (registers user password)
  | arm name => exact absurd rfl (arms name)
  | login line =>
      rw [ask_login]
      repeat' split
      all_goals exact ⟨rfl, rfl⟩
  | logout user =>
      rw [ask_logout]
      repeat' split
      all_goals exact ⟨rfl, rfl⟩
  | accessSecret user =>
      rw [ask_accessSecret]
      repeat' split
      all_goals exact ⟨rfl, rfl⟩

end Oracle

/-- An operation that arms a fail point arms one that there is. -/
def Operation.Armable (op : Operation) : Prop :=
  ∀ name, op = .fail name → ∃ point : FailPoint, name = point.name

namespace Lockstep

/-! ## Whom the oracle knows -/

def known (l : Lockstep) : Roster String := ⟨l.oracle.users.keys, l.oracle.users.nodup_keys⟩

def Admitting (l : Lockstep) : Prop :=
  .getPassword ∉ l.oracle.armed ∧ .register ∉ l.oracle.armed

instance (l : Lockstep) : Decidable l.Admitting := inferInstanceAs (Decidable (_ ∧ _))

def admitted (l : Lockstep) (ops : List Operation) : Roster String :=
  if l.Admitting then (registrants ops).foldl .insert l.known else l.known

theorem admitted_nil (l : Lockstep) : l.admitted [] = l.known := by
  rw [admitted]
  split
  · rfl
  · rfl

theorem admitted_start (store : Store) (ops : List Operation) :
    (start store).admitted ops = entrants ops := by
  have admitting : (start store).Admitting := ⟨Roster.not_mem_empty _, Roster.not_mem_empty _⟩
  rw [admitted, if_pos admitting]
  rfl

theorem known_congr {l l' : Lockstep} (users : l'.oracle.users = l.oracle.users) :
    l'.known = l.known := Roster.ext (congrArg Directory.keys users)

theorem admitted_congr {l l' : Lockstep} (users : l'.oracle.users = l.oracle.users)
    (armed : l'.oracle.armed = l.oracle.armed) (ops : List Operation) :
    l'.admitted ops = l.admitted ops := by
  have admitting : l'.Admitting ↔ l.Admitting := by rw [Admitting, Admitting, armed]
  simp only [admitted, admitting, known_congr users]

theorem admitted_cons_of_passes {l : Lockstep} {op : Operation} (registers : op.registrant? = none)
    (opens : ¬op.ClosesRegister) (rest : List Operation) :
    l.admitted (op :: rest) = l.admitted rest := by
  rw [admitted, admitted, registrants_cons opens, registers]
  rfl

theorem admitted_cons_of_registrant {l : Lockstep} {op : Operation} {user : String}
    (admitting : l.Admitting) (registers : op.registrant? = some user) (rest : List Operation) :
    l.admitted (op :: rest) = (registrants rest).foldl .insert (l.known.insert user) := by
  rw [admitted, if_pos admitting, registrants_cons (not_closes_of_registrant registers), registers]
  rfl

theorem admitted_of_closed {l : Lockstep} (closed : ¬l.Admitting) (ops : List Operation) :
    l.admitted ops = l.known := if_neg closed

theorem closesRegister_fail_iff {point : FailPoint} :
    (fail point.name).ClosesRegister ↔ point = .getPassword ∨ point = .register := by
  cases point <;> decide

/-- What is still to be admitted does not change as the oracle registers and arms. -/
theorem admitted_cons_fail {l l' : Lockstep} {point : FailPoint}
    (asked : l'.oracle = (l.oracle.ask (.arm point.name)).2) (rest : List Operation) :
    l.admitted (fail point.name :: rest) = l'.admitted rest := by
  rw [Oracle.ask_arm] at asked
  have known : l'.known = l.known := known_congr (by rw [asked])
  have armed : l'.oracle.armed = l.oracle.armed.insert point := by rw [asked]
  by_cases closes : (fail point.name).ClosesRegister
  · have closed : ¬l'.Admitting := by
      rw [Admitting, armed]
      rcases closesRegister_fail_iff.mp closes with rfl | rfl
      · simp
      · simp
    rw [admitted_of_closed closed, known, admitted, registrants_cons_of_closes closes]
    exact ite_self _
  · have admitting : l'.Admitting ↔ l.Admitting := by
      have other := not_or.mp (mt closesRegister_fail_iff.mpr closes)
      rw [Admitting, Admitting, armed]
      simp [Ne.symm other.1, Ne.symm other.2]
    rw [admitted_cons_of_passes rfl closes]
    simp only [admitted, admitting, known]

theorem admitted_cons_register {l l' : Lockstep} {user password : String}
    (asked : l'.oracle = (l.oracle.ask (.register user password)).2) (rest : List Operation) :
    l.admitted (register user password :: rest) = l'.admitted rest := by
  rw [Oracle.ask_register] at asked
  have opens : ¬(register user password).ClosesRegister := by simp [ClosesRegister]
  have unchanged : l'.oracle = l.oracle → l'.admitted rest = l.admitted rest :=
    fun same => admitted_congr (congrArg Oracle.users same) (congrArg Oracle.armed same) rest
  by_cases formed : UserId.WellFormed user
  · have registers : (register user password).registrant? = some user := if_pos formed
    rw [if_pos formed] at asked
    by_cases admitting : l.Admitting
    · rw [if_neg admitting.1, if_neg admitting.2] at asked
      rw [admitted_cons_of_registrant admitting registers]
      by_cases taken : user ∈ l.oracle.users
      · rw [if_pos taken] at asked
        have there : user ∈ l.known := taken
        rw [Roster.insert_of_mem there, unchanged asked, admitted, if_pos admitting]
      · rw [if_neg taken] at asked
        have admitting' : l'.Admitting := by
          rw [Admitting, asked]
          exact admitting
        have known : l'.known = l.known.insert user := by
          have users : l'.oracle.users = l.oracle.users.insert user password :=
            congrArg Oracle.users asked
          refine Roster.ext ?_
          show l'.oracle.users.keys = _
          rw [users]
          exact Directory.keys_insert l.oracle.users user password
        rw [admitted, if_pos admitting', known]
    · have same : l'.oracle = l.oracle := by
        rw [asked]
        split
        · rfl
        · split
          · rfl
          · split
            · rfl
            · next asking _ entering => exact absurd ⟨asking, entering⟩ admitting
      rw [unchanged same, admitted_of_closed admitting, admitted_of_closed admitting]
  · have registers : (register user password).registrant? = none := if_neg formed
    rw [if_neg formed] at asked
    rw [admitted_cons_of_passes registers opens, unchanged asked]

theorem admitted_cons {l l' : Lockstep} {op : Operation} (armable : op.Armable)
    (asked : l'.oracle = (l.oracle.ask (l.question op)).2) (rest : List Operation) :
    l.admitted (op :: rest) = l'.admitted rest := by
  have kept : (∀ user password, l.question op ≠ .register user password) →
      (∀ name, l.question op ≠ .arm name) → op.registrant? = none → ¬op.ClosesRegister →
      l.admitted (op :: rest) = l'.admitted rest := by
    intro registers arms passes opens
    obtain ⟨users, armed⟩ := l.oracle.ask_keeps registers arms
    rw [← asked] at users armed
    rw [admitted_cons_of_passes passes opens, admitted_congr users armed]
  cases op with
  | loginRight user | loginWrong user | logout user | accessSecret user =>
      exact kept (by simp [question]) (by simp [question]) rfl (by simp [ClosesRegister])
  | fail name =>
      obtain ⟨point, rfl⟩ := armable name rfl
      exact admitted_cons_fail asked rest
  | register user password => exact admitted_cons_register asked rest

/-- One operation admits at most the user whom it registers. -/
theorem admitted_singleton_cases (l : Lockstep) (op : Operation) :
    (∃ user, l.Admitting ∧ op.registrant? = some user ∧ l.admitted [op] = l.known.insert user) ∨
      l.admitted [op] = l.known := by
  by_cases admitting : l.Admitting
  · cases registers : op.registrant? with
    | some user =>
        exact .inl ⟨user, admitting, rfl, admitted_cons_of_registrant admitting registers []⟩
    | none =>
        by_cases closes : op.ClosesRegister
        · rw [admitted, if_pos admitting, registrants_cons_of_closes closes]
          exact .inr rfl
        · rw [admitted_cons_of_passes registers closes, admitted_nil]
          exact .inr rfl
  · exact .inr (admitted_of_closed admitting [op])

theorem size_admitted_singleton_le (l : Lockstep) (op : Operation) :
    (l.admitted [op]).size ≤ l.known.size + 1 := by
  rcases l.admitted_singleton_cases op with ⟨user, -, -, admitted⟩ | admitted
  · rw [admitted]
    exact Roster.size_insert_le l.known user
  · rw [admitted]
    exact Nat.le_succ _

/-- Where the oracle gets another user, a registration for the user gets through. -/
theorem size_lt_admitted_iff {l : Lockstep} {op : Operation} :
    l.known.size < (l.admitted [op]).size ↔
      ∃ user, l.Admitting ∧ op.registrant? = some user ∧ user ∉ l.known := by
  constructor
  · intro more
    rcases l.admitted_singleton_cases op with ⟨user, admitting, registers, admitted⟩ | admitted
    · refine ⟨user, admitting, registers, fun there => ?_⟩
      rw [admitted, Roster.insert_of_mem there] at more
      exact Nat.lt_irrefl _ more
    · rw [admitted] at more
      exact absurd more (Nat.lt_irrefl _)
  · rintro ⟨user, admitting, registers, new⟩
    have admitted : l.admitted [op] = l.known.insert user :=
      admitted_cons_of_registrant admitting registers []
    rw [admitted, Roster.size_insert_of_not_mem new]
    exact Nat.lt_succ_self _

end Lockstep

end Gatekeeper
