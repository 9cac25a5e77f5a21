import Gatekeeper.Collection.Roster
import Gatekeeper.Proofs.Shrink.Minimality
import Gatekeeper.UserId
import Mathlib.Data.List.Perm.Subperm

/-!
# Whom a list of operations registers

Until a fail point on the way of a registration is armed, every registration for a
well-formed identifier enters its user, if the user is not there yet.  A list that
enters five users, and no longer does if a single operation is deleted or simplified,
consists of five registrations with the simplest password, one of them for the
simplest user.
-/

namespace Gatekeeper

/-! ## Rosters of lists -/

namespace Roster

variable {α : Type}

theorem size_le_of_subset {r s : Roster α} (subset : ∀ x ∈ r, x ∈ s) : r.size ≤ s.size :=
  r.distinct.length_le_of_subset subset

variable [DecidableEq α]

theorem mem_foldl_insert {xs : List α} {r : Roster α} {x : α} :
    x ∈ xs.foldl insert r ↔ x ∈ r ∨ x ∈ xs := by
  induction xs generalizing r with
  | nil => simp
  | cons y rest ih =>
      rw [List.foldl_cons, ih, mem_insert, List.mem_cons, or_assoc]

theorem mem_ofList {xs : List α} {x : α} : x ∈ ofList xs ↔ x ∈ xs := by
  rw [ofList, mem_foldl_insert]
  simp

theorem insert_of_mem {r : Roster α} {x : α} (there : x ∈ r) : r.insert x = r :=
  ext (if_pos there)

theorem size_insert_of_not_mem {r : Roster α} {x : α} (new : x ∉ r) :
    (r.insert x).size = r.size + 1 := by
  have members : (r.insert x).members = r.members ++ [x] := if_neg new
  rw [size, members, List.length_append]
  rfl

theorem size_insert_le (r : Roster α) (x : α) : (r.insert x).size ≤ r.size + 1 := by
  by_cases there : x ∈ r
  · rw [insert_of_mem there]
    exact Nat.le_succ _
  · exact Nat.le_of_eq (size_insert_of_not_mem there)

theorem size_ofList_of_nodup {xs : List α} (distinct : xs.Nodup) :
    (ofList xs).size = xs.length := by
  have fewer := (ofList xs).distinct.length_le_of_subset fun x member => mem_ofList.mp member
  have more := distinct.length_le_of_subset fun x member => mem_ofList.mpr member
  exact Nat.le_antisymm fewer more

end Roster

/-! ## Entrants -/

namespace Operation

def ClosesRegister (op : Operation) : Prop :=
  op = .fail FailPoint.getPassword.name ∨ op = .fail FailPoint.register.name

instance (op : Operation) : Decidable op.ClosesRegister := inferInstanceAs (Decidable (_ ∨ _))

def registrant? : Operation → Option String
  | register user _ => if UserId.WellFormed user then some user else none
  | _ => none

theorem registrant?_eq_some {op : Operation} {user : String} :
    op.registrant? = some user ↔
      UserId.WellFormed user ∧ ∃ password, op = .register user password := by
  cases op with
  | register name password =>
      by_cases formed : UserId.WellFormed name
      · simp only [registrant?, if_pos formed, Option.some.injEq, register.injEq]
        constructor
        · rintro rfl
          exact ⟨formed, password, rfl, rfl⟩
        · rintro ⟨-, _, same, -⟩
          exact same
      · simp only [registrant?, if_neg formed, register.injEq]
        constructor
        · nofun
        · rintro ⟨formed', _, rfl, -⟩
          exact absurd formed' formed
  | _ => simp [registrant?]

theorem not_closes_of_registrant {op : Operation} {user : String}
    (registers : op.registrant? = some user) : ¬op.ClosesRegister := by
  obtain ⟨-, password, rfl⟩ := registrant?_eq_some.mp registers
  simp [ClosesRegister]

end Operation

open Operation

/-- The users whom a list asks to register before registrations fail. -/
def registrants (ops : List Operation) : List String :=
  (ops.takeWhile fun op => ¬op.ClosesRegister).filterMap registrant?

/-- The users whom a list registers before registrations fail, each once. -/
def entrants (ops : List Operation) : Roster String := .ofList (registrants ops)

theorem registrants_cons_of_closes {op : Operation} (closes : op.ClosesRegister)
    (rest : List Operation) : registrants (op :: rest) = [] := by
  simp [registrants, closes]

theorem registrants_cons {op : Operation} (opens : ¬op.ClosesRegister) (rest : List Operation) :
    registrants (op :: rest) = op.registrant?.toList ++ registrants rest := by
  cases found : op.registrant? with
  | none => simp [registrants, opens, found]
  | some user => simp [registrants, opens, found]

theorem mem_entrants {ops : List Operation} {user : String} :
    user ∈ entrants ops ↔ user ∈ registrants ops := Roster.mem_ofList

/-- A list enters no fewer users with more operations behind it. -/
theorem size_entrants_le_append (before after : List Operation) :
    (entrants before).size ≤ (entrants (before ++ after)).size := by
  have kept : ∀ user, user ∈ registrants before → user ∈ registrants (before ++ after) := by
    intro user member
    induction before with
    | nil => cases member
    | cons op rest ih =>
        by_cases closes : op.ClosesRegister
        · rw [registrants_cons_of_closes closes] at member
          cases member
        · rw [registrants_cons closes, List.mem_append] at member
          rw [List.cons_append, registrants_cons closes, List.mem_append]
          exact member.imp_right ih
  exact Roster.size_le_of_subset fun user member =>
    mem_entrants.mpr (kept user (mem_entrants.mp member))

/-! ## Deleting and replacing an operation -/

section Changes

variable {before after : List Operation} {op variant : Operation}

/-- Without an operation, a list still enters all but the user whom the operation registers. -/
theorem mem_registrants_of_split {user : String}
    (member : user ∈ registrants (before ++ op :: after)) :
    op.registrant? = some user ∨ user ∈ registrants (before ++ after) := by
  induction before with
  | nil =>
      by_cases closes : op.ClosesRegister
      · rw [List.nil_append, registrants_cons_of_closes closes] at member
        cases member
      · rw [List.nil_append, registrants_cons closes, List.mem_append,
          Option.mem_toList] at member
        exact member
  | cons first before ih =>
      by_cases closes : first.ClosesRegister
      · rw [List.cons_append, registrants_cons_of_closes closes] at member
        cases member
      · rw [List.cons_append, registrants_cons closes, List.mem_append] at member ⊢
        rcases member with early | late
        · exact .inr (.inl early)
        · exact (ih late).imp_right .inr

theorem size_entrants_split_le :
    (entrants (before ++ op :: after)).size ≤ (entrants (before ++ after)).size + 1 := by
  cases registers : op.registrant? with
  | none =>
      refine Nat.le_succ_of_le (Roster.size_le_of_subset fun user member => ?_)
      rcases mem_registrants_of_split (mem_entrants.mp member) with this | other
      · rw [registers] at this
        cases this
      · exact mem_entrants.mpr other
  | some entering =>
      refine Nat.le_trans (Roster.size_le_of_subset fun user member => ?_)
        (Roster.size_insert_le (entrants (before ++ after)) entering)
      rcases mem_registrants_of_split (mem_entrants.mp member) with this | other
      · rw [registers] at this
        exact Roster.mem_insert.mpr (.inr (Option.some.inj this).symm)
      · exact Roster.mem_insert.mpr (.inl (mem_entrants.mpr other))

/-- A list whose fewer entrants are those of an operation has the operation enter a new one. -/
theorem exists_registrant_of_size_lt
    (fewer : (entrants (before ++ after)).size < (entrants (before ++ op :: after)).size) :
    ∃ user, op.registrant? = some user ∧ user ∉ registrants (before ++ after) := by
  apply Classical.byContradiction
  intro none_new
  have subset : ∀ user ∈ entrants (before ++ op :: after), user ∈ entrants (before ++ after) := by
    intro user member
    rcases mem_registrants_of_split (mem_entrants.mp member) with this | other
    · apply Classical.byContradiction
      intro new
      exact none_new ⟨user, this, fun there => new (mem_entrants.mpr there)⟩
    · exact mem_entrants.mpr other
  have least := Roster.size_le_of_subset subset
  omega

theorem registrants_replaced {user : String} (registers : op.registrant? = some user)
    (registers' : variant.registrant? = some user) :
    registrants (before ++ variant :: after) = registrants (before ++ op :: after) := by
  induction before with
  | nil =>
      rw [List.nil_append, List.nil_append, registrants_cons (not_closes_of_registrant registers),
        registrants_cons (not_closes_of_registrant registers'), registers, registers']
  | cons first before ih =>
      by_cases closes : first.ClosesRegister
      · rw [List.cons_append, List.cons_append, registrants_cons_of_closes closes,
          registrants_cons_of_closes closes]
      · rw [List.cons_append, List.cons_append, registrants_cons closes, registrants_cons closes,
          ih]

end Changes

/-! ## Lists that are minimal -/

def crowded (ops : List Operation) : Bool := decide (5 ≤ (entrants ops).size)

section Minimal

open Gatekeeper.Shrink

variable {ops : List Operation}

theorem size_lt_of_not_crowded (sparse : crowded ops = false) : (entrants ops).size < 5 := by
  simpa [crowded] using sparse

/-- In a list that resists deletion every operation enters another user. -/
theorem registers_of_resistsDeletion (many : crowded ops = true)
    (resists : ResistsDeletion crowded ops) {before after : List Operation} {op : Operation}
    (split : ops = before ++ op :: after) :
    ∃ user, op.registrant? = some user ∧ user ∉ registrants (before ++ after) := by
  have fewer := size_lt_of_not_crowded (resists before op after split)
  have enough : 5 ≤ (entrants ops).size := of_decide_eq_true many
  refine exists_registrant_of_size_lt ?_
  rw [← split]
  omega

theorem registrants_append_of_registers {before after : List Operation}
    (registers : ∀ op ∈ before, ∃ user, op.registrant? = some user) :
    registrants (before ++ after) = registrants before ++ registrants after := by
  induction before with
  | nil => rfl
  | cons op rest ih =>
      obtain ⟨⟨user, registers⟩, later⟩ := List.forall_mem_cons.mp registers
      have opens := not_closes_of_registrant registers
      rw [List.cons_append, registrants_cons opens, registrants_cons opens, ih later,
        List.append_assoc]

/-- Each entrant of a list that resists deletion is entered by one operation. -/
theorem nodup_registrants (each : ∀ before op after, ops = before ++ op :: after →
      ∃ user, op.registrant? = some user ∧ user ∉ registrants (before ++ after)) :
    (registrants ops).Nodup := by
  have later : ∀ before after, ops = before ++ after → (registrants after).Nodup := by
    intro before after split
    induction after generalizing before with
    | nil => exact List.nodup_nil
    | cons op rest ih =>
        obtain ⟨user, registers, new⟩ := each before op rest split
        have others := ih (before ++ [op]) (by simpa using split)
        have earlier : ∀ op ∈ before, ∃ user, op.registrant? = some user := by
          intro op member
          obtain ⟨first, between, rfl⟩ := List.append_of_mem member
          obtain ⟨user, registers, -⟩ := each first op (between ++ _ :: rest) (by
            rw [split, List.append_assoc, List.cons_append])
          exact ⟨user, registers⟩
        rw [registrants_append_of_registers earlier, List.mem_append, not_or] at new
        rw [registrants_cons (not_closes_of_registrant registers), registers]
        exact List.nodup_cons.mpr ⟨new.2, others⟩
  exact later [] ops rfl

/-- A list of registrations with the simplest password is given by its users. -/
theorem eq_map_registrants (each : ∀ op ∈ ops, ∃ user, op.registrant? = some user ∧
      op = .register user simplestPassword) :
    ops = (registrants ops).map fun user => .register user simplestPassword := by
  induction ops with
  | nil => rfl
  | cons op rest ih =>
      obtain ⟨⟨user, registers, plain⟩, later⟩ := List.forall_mem_cons.mp each
      rw [registrants_cons (not_closes_of_registrant registers), registers]
      show op :: rest = .register user simplestPassword :: (registrants rest).map _
      rw [← ih later, ← plain]

theorem simplestPassword_mem_simpler {user password : String}
    (other : password ≠ simplestPassword) :
    .register user simplestPassword ∈ (register user password).simpler := by
  simp [simpler, other]

theorem simplestUser_mem_simpler {user password : String} (other : user ≠ simplestUser) :
    .register simplestUser password ∈ (register user password).simpler := by
  simp [simpler, simplerUser, other, withUser]

/-- A list that resists simplification registers everyone with the simplest password. -/
theorem password_of_resistsSimplification (many : crowded ops = true)
    (resists : ResistsSimplification crowded ops) {op : Operation} (member : op ∈ ops)
    {user : String} (registers : op.registrant? = some user) :
    op = .register user simplestPassword := by
  obtain ⟨before, after, split⟩ := List.append_of_mem member
  obtain ⟨formed, password, rfl⟩ := registrant?_eq_some.mp registers
  apply Classical.byContradiction
  intro other
  have differs : password ≠ simplestPassword := by
    rintro rfl
    exact other rfl
  have sparse := resists before _ after split _ (simplestPassword_mem_simpler differs)
  have same : registrants (before ++ .register user simplestPassword :: after) =
      registrants (before ++ .register user password :: after) :=
    registrants_replaced registers (registrant?_eq_some.mpr ⟨formed, _, rfl⟩)
  rw [crowded, entrants, same, ← entrants, ← split] at sparse
  rw [crowded] at many
  rw [many] at sparse
  cases sparse

/-- A list that resists simplification registers the simplest user. -/
theorem simplestUser_mem_of_resistsSimplification (many : crowded ops = true)
    (resists : ResistsSimplification crowded ops)
    (each : ∀ before op after, ops = before ++ op :: after →
      ∃ user, op.registrant? = some user ∧ user ∉ registrants (before ++ after)) :
    simplestUser ∈ registrants ops := by
  apply Classical.byContradiction
  intro absent
  have distinct := nodup_registrants each
  have enough : 5 ≤ (entrants ops).size := of_decide_eq_true many
  rw [entrants, Roster.size_ofList_of_nodup distinct] at enough
  cases ops with
  | nil => simp [registrants] at enough
  | cons op rest =>
      obtain ⟨user, registers, -⟩ := each [] op rest rfl
      have opens := not_closes_of_registrant registers
      obtain ⟨formed, password, rfl⟩ := registrant?_eq_some.mp registers
      rw [registrants_cons opens, registers] at absent distinct enough
      have absent : simplestUser ≠ user ∧ simplestUser ∉ registrants rest := by
        simpa using absent
      have distinct : user ∉ registrants rest ∧ (registrants rest).Nodup := by
        simpa using distinct
      -- The simplest user in the place of the first one is still one of five.
      have simplest : (register simplestUser password).registrant? = some simplestUser :=
        registrant?_eq_some.mpr ⟨by decide, password, rfl⟩
      have replaced : registrants (register simplestUser password :: rest) =
          simplestUser :: registrants rest := by
        rw [registrants_cons (not_closes_of_registrant simplest), simplest]
        rfl
      have sparse := resists [] _ rest rfl _ (simplestUser_mem_simpler absent.1.symm)
      have few := size_lt_of_not_crowded sparse
      rw [List.nil_append, entrants, replaced, Roster.size_ofList_of_nodup
        (List.nodup_cons.mpr ⟨absent.2, distinct.2⟩)] at few
      simp only [Option.toList_some, List.length_append, List.length_cons,
        List.length_nil] at enough few
      omega

/-- Five registrations are left of a list that is minimal among those that enter five users. -/
theorem five_registrations (many : crowded ops = true) (deletion : ResistsDeletion crowded ops)
    (simplification : ResistsSimplification crowded ops) :
    ∃ users : List String, ops = users.map (fun user => .register user simplestPassword) ∧
      users.length = 5 ∧ users.Nodup ∧ simplestUser ∈ users := by
  have each : ∀ before op after, ops = before ++ op :: after →
      ∃ user, op.registrant? = some user ∧ user ∉ registrants (before ++ after) :=
    fun _ _ _ => registers_of_resistsDeletion many deletion
  have distinct := nodup_registrants each
  have enough : 5 ≤ (entrants ops).size := of_decide_eq_true many
  refine ⟨registrants ops, eq_map_registrants ?_, ?_, distinct,
    simplestUser_mem_of_resistsSimplification many simplification each⟩
  · intro op member
    obtain ⟨before, after, split⟩ := List.append_of_mem member
    obtain ⟨user, registers, -⟩ := each before op after split
    exact ⟨user, registers,
      password_of_resistsSimplification many simplification member registers⟩
  · rw [← Roster.size_ofList_of_nodup distinct, ← entrants]
    cases ops with
    | nil => simp [entrants, registrants, Roster.size, Roster.ofList] at enough
    | cons op rest =>
        have few := size_lt_of_not_crowded (deletion [] op rest rfl)
        have most : (entrants ([] ++ op :: rest)).size ≤ (entrants ([] ++ rest)).size + 1 :=
          size_entrants_split_le
        simp only [List.nil_append] at few most
        omega

end Minimal

end Gatekeeper
