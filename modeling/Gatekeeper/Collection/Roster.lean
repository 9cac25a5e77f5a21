/-!
# Rosters

A finite set as a list without repetitions, in the order in which its members
joined.
-/

namespace Gatekeeper

/-- A list without repetitions. -/
structure Roster (α : Type) where
  members : List α
  distinct : members.Nodup
deriving DecidableEq

namespace Roster

variable {α : Type}

@[ext] theorem ext {r s : Roster α} (h : r.members = s.members) : r = s := by
  cases r
  cases s
  simp_all

def empty : Roster α := ⟨[], List.nodup_nil⟩

@[simp] theorem members_empty : (empty : Roster α).members = [] := rfl

instance : Inhabited (Roster α) := ⟨empty⟩

instance : Membership α (Roster α) := ⟨fun r x => x ∈ r.members⟩

theorem mem_def {r : Roster α} {x : α} : x ∈ r ↔ x ∈ r.members := Iff.rfl

@[simp] theorem not_mem_empty (x : α) : x ∉ (empty : Roster α) := by simp [mem_def]

def size (r : Roster α) : Nat := r.members.length

variable [DecidableEq α]

instance (x : α) (r : Roster α) : Decidable (x ∈ r) := inferInstanceAs (Decidable (x ∈ r.members))

/-- Let a member join; one that is there already stays where it is. -/
def insert (r : Roster α) (x : α) : Roster α where
  members := if x ∈ r.members then r.members else r.members ++ [x]
  distinct := by
    split
    · exact r.distinct
    · next h =>
      rw [List.nodup_append]
      refine ⟨r.distinct, by simp, ?_⟩
      intro a ha b hb
      simp only [List.mem_singleton] at hb
      exact fun hab => h (hb ▸ hab ▸ ha)

def erase (r : Roster α) (x : α) : Roster α where
  members := r.members.erase x
  distinct := r.distinct.erase x

@[simp] theorem mem_insert {r : Roster α} {x y : α} : y ∈ r.insert x ↔ y ∈ r ∨ y = x := by
  simp only [mem_def, insert]
  split
  · next h => exact ⟨Or.inl, fun hy => hy.elim id fun e => e ▸ h⟩
  · simp

@[simp] theorem mem_erase {r : Roster α} {x y : α} : y ∈ r.erase x ↔ y ≠ x ∧ y ∈ r := by
  simp only [mem_def, erase]
  exact r.distinct.mem_erase_iff

/-- The roster of a list's members, each at its first place. -/
def ofList (xs : List α) : Roster α := xs.foldl insert empty

end Roster

end Gatekeeper
