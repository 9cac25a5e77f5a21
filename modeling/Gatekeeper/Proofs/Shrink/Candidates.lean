import Gatekeeper.Proofs.Shrink.Reduction

/-!
# What shrinking tries

The answers of the test decide which list is tried next.  Whatever they are, and even if they
depend on the lists that were tried before, shrinking tries nothing but reductions of the list
that it is given, and it ends with one of them.
-/

namespace Gatekeeper

namespace Shrink

/-! ## Tests that remember -/

def remembering (answer : List (List Operation) → List Operation → Bool) (xs : List Operation) :
    StateM (List (List Operation)) Bool :=
  modifyGet fun tried => (answer tried xs, tried ++ [xs])

/-- A part of shrinking that tries nothing but reductions of a list and has a result of a kind. -/
def Tries (ops : List Operation) {ρ : Type} (part : StateM (List (List Operation)) ρ)
    (Result : ρ → Prop) : Prop :=
  ∀ earlier, (∀ xs ∈ earlier, Reduces ops xs) →
    Result (part.run earlier).1 ∧ ∀ xs ∈ (part.run earlier).2, Reduces ops xs

section Calculus

variable {ρ τ : Type} {ops : List Operation} {Result : ρ → Prop} {Result' : τ → Prop}

theorem tries_pure {result : ρ} (holds : Result result) : Tries ops (pure result) Result :=
  fun _ reduces => ⟨holds, reduces⟩

theorem Tries.bind {part : StateM (List (List Operation)) ρ}
    {next : ρ → StateM (List (List Operation)) τ} (first : Tries ops part Result)
    (rest : ∀ result, Result result → Tries ops (next result) Result') :
    Tries ops (part >>= next) Result' := by
  intro earlier reduces
  obtain ⟨holds, reduces'⟩ := first earlier reduces
  exact rest _ holds _ reduces'

variable (answer : List (List Operation) → List Operation → Bool)

theorem tries_remembering {xs : List Operation} (reduces : Reduces ops xs) :
    Tries ops (remembering answer xs) fun _ => True := by
  intro earlier before
  refine ⟨trivial, fun ys among => ?_⟩
  rcases List.mem_append.mp among with known | last
  · exact before ys known
  · rw [List.mem_singleton.mp last]
    exact reduces

/-- A search ends with one of the elements that are searched, if it finds any. -/
theorem tries_findM? {α : Type} (view : α → List Operation) (xs : List α)
    (reduces : ∀ x ∈ xs, Reduces ops (view x)) :
    Tries ops (xs.findM? fun x => remembering answer (view x)) fun found =>
      ∀ x, found = some x → x ∈ xs := by
  induction xs with
  | nil => exact tries_pure nofun
  | cons x rest ih =>
      obtain ⟨first, later⟩ := List.forall_mem_cons.mp reduces
      rw [List.findM?]
      refine (tries_remembering answer first).bind fun failing _ => ?_
      cases failing with
      | true =>
          refine tries_pure fun found same => ?_
          rw [← Option.some.inj same]
          exact List.mem_cons_self
      | false =>
          intro earlier before
          obtain ⟨among, after⟩ := ih later earlier before
          exact ⟨fun found same => List.mem_cons_of_mem x (among found same), after⟩

end Calculus

/-! ## Parts of a round -/

variable (answer : List (List Operation) → List Operation → Bool) {ops : List Operation}

theorem tries_sweep (size : Nat) {kept rest : List Operation}
    (reduces : Reduces ops (kept ++ rest)) :
    Tries ops (sweep (remembering answer) size kept rest) (Reduces ops) := by
  induction kept, rest using sweep.induct size with
  | case1 kept =>
      rw [sweep]
      rw [List.append_nil] at reduces
      exact tries_pure reduces
  | case2 kept x tail deleted passed =>
      have fewer : Reduces ops (kept ++ tail.drop (size - 1)) := by
        refine reduces.deletion (List.Sublist.append_left ?_ kept)
        exact (List.drop_sublist _ _).trans (List.sublist_cons_self x tail)
      rw [sweep]
      refine (tries_remembering answer fewer).bind fun failing _ => ?_
      cases failing with
      | true => exact deleted fewer
      | false => exact passed (by simpa using reduces)

theorem tries_deleteFrom (size : Nat) {xs : List Operation} (reduces : Reduces ops xs) :
    Tries ops (deleteFrom (remembering answer) size xs) (Reduces ops) := by
  induction size, xs using deleteFrom.induct with
  | case1 size xs empty =>
      rw [deleteFrom, if_pos empty]
      exact tries_pure reduces
  | case2 size xs nonempty smaller again =>
      rw [deleteFrom, if_neg nonempty]
      refine (tries_sweep answer size (by exact reduces)).bind fun left reduces => ?_
      split
      · next chunks => exact smaller left chunks reduces
      · split
        · next shorter => exact again left shorter reduces
        · exact tries_pure reduces

theorem tries_firstOfSizes {xs : List Operation} (reduces : Reduces ops xs) (sizes : List Nat) :
    Tries ops (firstOfSizes (remembering answer) xs sizes) (Reduces ops) := by
  induction sizes with
  | nil => exact tries_pure reduces
  | cons size sizes ih =>
      have picks : ∀ picked ∈ combinations size xs, Reduces ops picked :=
        fun picked member => reduces.deletion (mem_combinations.mp member).1
      rw [firstOfSizes]
      refine (tries_findM? answer (fun picked => picked) _ picks).bind fun found among => ?_
      cases found with
      | some picked => exact tries_pure (picks picked (among picked rfl))
      | none => exact ih

theorem tries_simplifyEach {done rest : List Operation} (reduces : Reduces ops (done ++ rest)) :
    Tries ops (simplifyEach (remembering answer) done rest) (Reduces ops) := by
  induction done, rest using simplifyEach.induct with
  | case1 done =>
      rw [List.append_nil] at reduces
      exact tries_pure reduces
  | case2 done op rest simplified passed =>
      have variants : ∀ variant ∈ op.simpler, Reduces ops (done ++ variant :: rest) :=
        fun variant simpler => reduces.simplification simpler
      rw [simplifyEach]
      refine (tries_findM? answer (fun variant => done ++ variant :: rest) _ variants).bind
        fun found among => ?_
      cases found with
      | some variant =>
          have simpler := variants variant (among variant rfl)
          exact simplified variant (by simpa using simpler)
      | none => exact passed (by simpa using reduces)

theorem tries_simplify {xs : List Operation} (reduces : Reduces ops xs) :
    Tries ops (simplify (remembering answer) xs) (Reduces ops) := by
  induction xs using simplify.induct with
  | case1 xs again =>
      rw [simplify]
      refine (tries_simplifyEach answer (by exact reduces)).bind fun after reduces => ?_
      split
      · next quieter => exact again after quieter reduces
      · exact tries_pure reduces

/-! ## Whole runs -/

section Rounds

variable (limit : Int)

theorem tries_reduce {xs : List Operation} (reduces : Reduces ops xs) :
    Tries ops (reduce (remembering answer) limit xs) (Reduces ops) := by
  unfold reduce
  split
  · exact tries_deleteFrom answer _ reduces
  · exact tries_pure reduces

theorem tries_minimize {xs : List Operation} (reduces : Reduces ops xs) :
    Tries ops (minimize (remembering answer) limit xs) (Reduces ops) := by
  unfold minimize
  split
  · exact tries_pure reduces
  · exact tries_firstOfSizes answer reduces _

theorem tries_inRounds {xs : List Operation} (reduces : Reduces ops xs) :
    Tries ops (inRounds (remembering answer) limit xs) fun shrunk =>
      Reduces ops shrunk.operations := by
  induction xs using inRounds.induct with
  | case1 xs again =>
      rw [inRounds]
      refine (tries_reduce answer limit reduces).bind fun reduced reduces => ?_
      refine (tries_minimize answer limit reduces).bind fun least reduces => ?_
      refine (tries_simplify answer reduces).bind fun after reduces => ?_
      dsimp only
      split
      · next lighter =>
        exact (again after lighter reduces).bind fun shrunk reduces => tries_pure reduces
      · exact tries_pure reduces

/-- The lists on which shrinking makes its test, in turn. -/
def candidates (ops : List Operation) : List (List Operation) :=
  ((shrink (remembering answer) limit ops).run []).2

/-- What shrinking has to do with: the list that it is given, those on which it makes its test and
the one that it ends with. -/
inductive Touches (ops : List Operation) : List Operation → Prop where
  | given : Touches ops ops
  | tried {xs : List Operation} (member : xs ∈ candidates answer limit ops) : Touches ops xs
  | shrunk {shrunk : Shrunk}
      (ended : ((shrink (remembering answer) limit ops).run []).1 = some shrunk) :
      Touches ops shrunk.operations

theorem tries_shrink : Tries ops (shrink (remembering answer) limit ops) fun result =>
    ∀ shrunk, result = some shrunk → Reduces ops shrunk.operations := by
  rw [shrink]
  refine (tries_remembering answer .refl).bind fun failing _ => ?_
  cases failing with
  | true =>
      refine (tries_inRounds answer limit .refl).bind fun shrunk reduces => tries_pure ?_
      intro result same
      rw [← Option.some.inj same]
      exact reduces
  | false => exact tries_pure nofun

theorem Touches.reduces {xs : List Operation} (touches : Touches answer limit ops xs) :
    Reduces ops xs := by
  obtain ⟨ends, reduces⟩ := @tries_shrink answer ops limit [] nofun
  cases touches with
  | given => exact .refl
  | tried member => exact reduces xs member
  | shrunk ended => exact ends _ ended

end Rounds

end Shrink

end Gatekeeper
