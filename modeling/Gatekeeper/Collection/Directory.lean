/-!
# Directories

A finite map from texts that keeps the order in which its keys were first
entered.  Entering a key again changes its value and not its place.
-/

namespace Gatekeeper

/-- Keys with their values, each key once. -/
structure Directory (α : Type) where
  entries : List (String × α)
  distinct : (entries.map Prod.fst).Nodup

namespace Directory

variable {α : Type}

instance [DecidableEq α] : DecidableEq (Directory α) := fun d e =>
  decidable_of_iff (d.entries = e.entries)
    ⟨fun h => by cases d; cases e; simp_all, fun h => h ▸ rfl⟩

@[ext] theorem ext {d e : Directory α} (h : d.entries = e.entries) : d = e := by
  cases d
  cases e
  simp_all

def empty : Directory α := ⟨[], List.nodup_nil⟩

@[simp] theorem entries_empty : (empty : Directory α).entries = [] := rfl

instance : Inhabited (Directory α) := ⟨empty⟩

def keys (d : Directory α) : List String := d.entries.map Prod.fst

def values (d : Directory α) : List α := d.entries.map Prod.snd

theorem nodup_keys (d : Directory α) : d.keys.Nodup := d.distinct

def size (d : Directory α) : Nat := d.entries.length

def find? (key : String) : List (String × α) → Option α
  | [] => none
  | (k, v) :: rest => if k = key then some v else find? key rest

def get? (d : Directory α) (key : String) : Option α := find? key d.entries

@[simp] theorem get?_empty (key : String) : (empty : Directory α).get? key = none := rfl

/-- A list of entries with the value of a key replaced, or with the key at the end. -/
def enter (key : String) (value : α) : List (String × α) → List (String × α)
  | [] => [(key, value)]
  | (k, v) :: rest => if k = key then (k, value) :: rest else (k, v) :: enter key value rest

theorem keys_enter (key : String) (value : α) (entries : List (String × α)) :
    (enter key value entries).map Prod.fst =
      if key ∈ entries.map Prod.fst then entries.map Prod.fst
      else entries.map Prod.fst ++ [key] := by
  induction entries with
  | nil => simp [enter]
  | cons entry rest ih =>
      obtain ⟨k, v⟩ := entry
      by_cases h : k = key
      · simp [enter, h]
      · simp only [enter, h, if_false, List.map_cons, ih, List.mem_cons, Ne.symm h, false_or]
        split <;> simp

theorem find?_enter (key k : String) (value : α) (entries : List (String × α)) :
    find? k (enter key value entries) = if key = k then some value else find? k entries := by
  induction entries with
  | nil => simp [enter, find?]
  | cons entry rest ih =>
      obtain ⟨l, v⟩ := entry
      by_cases h : l = key
      · subst h
        by_cases hk : l = k <;> simp [enter, find?, hk]
      · by_cases hk : l = k
        · subst hk
          simp [enter, find?, h, Ne.symm h]
        · simp [enter, find?, h, hk, ih]

def insert (d : Directory α) (key : String) (value : α) : Directory α where
  entries := enter key value d.entries
  distinct := by
    rw [keys_enter]
    split
    · exact d.distinct
    · next h =>
      rw [List.nodup_append]
      refine ⟨d.distinct, by simp, ?_⟩
      intro a ha b hb
      simp only [List.mem_singleton] at hb
      exact fun hab => h (hb ▸ hab ▸ ha)

@[simp] theorem get?_insert (d : Directory α) (key k : String) (value : α) :
    (d.insert key value).get? k = if key = k then some value else d.get? k :=
  find?_enter key k value d.entries

theorem keys_insert (d : Directory α) (key : String) (value : α) :
    (d.insert key value).keys = if key ∈ d.keys then d.keys else d.keys ++ [key] :=
  keys_enter key value d.entries

instance : Membership String (Directory α) := ⟨fun d key => key ∈ d.keys⟩

theorem mem_def {d : Directory α} {key : String} : key ∈ d ↔ key ∈ d.keys := Iff.rfl

instance (key : String) (d : Directory α) : Decidable (key ∈ d) :=
  inferInstanceAs (Decidable (key ∈ d.keys))

@[simp] theorem not_mem_empty (key : String) : key ∉ (empty : Directory α) := by
  simp [mem_def, keys]

@[simp] theorem mem_insert {d : Directory α} {key k : String} {value : α} :
    k ∈ d.insert key value ↔ k ∈ d ∨ k = key := by
  simp only [mem_def, keys_insert]
  split
  · next h => exact ⟨Or.inl, fun hk => hk.elim id fun e => e ▸ h⟩
  · simp

theorem find?_isSome_iff (key : String) (entries : List (String × α)) :
    (find? key entries).isSome = true ↔ key ∈ entries.map Prod.fst := by
  induction entries with
  | nil => simp [find?]
  | cons entry rest ih =>
      obtain ⟨k, v⟩ := entry
      by_cases h : k = key
      · simp [find?, h]
      · simp [find?, ih, h, Ne.symm h]

theorem get?_isSome_iff {d : Directory α} {key : String} :
    (d.get? key).isSome = true ↔ key ∈ d := find?_isSome_iff key d.entries

theorem get?_eq_none_iff {d : Directory α} {key : String} : d.get? key = none ↔ key ∉ d := by
  rw [← get?_isSome_iff]
  cases d.get? key <;> simp

end Directory

end Gatekeeper
