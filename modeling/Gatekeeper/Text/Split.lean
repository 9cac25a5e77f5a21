/-!
# Parts of a text

Splitting a text at a mark, once or at every place, and looking for a part.
-/

namespace Gatekeeper

namespace Text

/-- The text before the first mark and the text after it. -/
def splitFirst? (mark : Char) : List Char → Option (List Char × List Char)
  | [] => none
  | c :: rest =>
      if c = mark then some ([], rest)
      else (splitFirst? mark rest).map fun (before, after) => (c :: before, after)

theorem splitFirst?_eq_none_iff {mark : Char} {cs : List Char} :
    splitFirst? mark cs = none ↔ mark ∉ cs := by
  induction cs with
  | nil => simp [splitFirst?]
  | cons c rest ih =>
      by_cases h : c = mark
      · simp [splitFirst?, h]
      · simp [splitFirst?, h, ih, Ne.symm h]

theorem splitFirst?_append {mark : Char} {before : List Char} (after : List Char)
    (h : mark ∉ before) : splitFirst? mark (before ++ mark :: after) = some (before, after) := by
  induction before with
  | nil => simp [splitFirst?]
  | cons c rest ih =>
      simp only [List.mem_cons, not_or] at h
      simp [splitFirst?, Ne.symm h.1, ih h.2]

theorem eq_append_of_splitFirst? {mark : Char} {cs before after : List Char}
    (h : splitFirst? mark cs = some (before, after)) :
    cs = before ++ mark :: after ∧ mark ∉ before := by
  induction cs generalizing before with
  | nil => simp [splitFirst?] at h
  | cons c rest ih =>
      by_cases hc : c = mark
      · simp only [splitFirst?, hc, if_true, Option.some.injEq, Prod.mk.injEq] at h
        obtain ⟨rfl, rfl⟩ := h
        simp [hc]
      · simp only [splitFirst?, hc, if_false, Option.map_eq_some_iff] at h
        obtain ⟨⟨before', after'⟩, hrest, heq⟩ := h
        simp only [Prod.mk.injEq] at heq
        obtain ⟨rfl, rfl⟩ := heq
        obtain ⟨rfl, hmem⟩ := ih hrest
        simp [hmem, Ne.symm hc]

/-- The text up to the first mark, or all of it. -/
def upTo (mark : Char) (s : String) : String := String.ofList (s.toList.takeWhile (· ≠ mark))

theorem upTo_append {mark : Char} {before : List Char} (after : List Char) (h : mark ∉ before) :
    upTo mark (String.ofList (before ++ mark :: after)) = String.ofList before := by
  have unmarked : ∀ c ∈ before, decide (c ≠ mark) = true := by
    intro c hc
    exact decide_eq_true fun same => h (same ▸ hc)
  rw [upTo, String.toList_ofList, List.takeWhile_append_of_pos unmarked]
  simp

/-- The parts of a text between marks; one more than there are marks. -/
def splitAll (mark : Char) : List Char → List (List Char)
  | [] => [[]]
  | c :: rest =>
      if c = mark then
        [] :: splitAll mark rest
      else
        match splitAll mark rest with
        | part :: parts => (c :: part) :: parts
        | [] => [[c]]

theorem splitAll_of_not_mem {mark : Char} {cs : List Char} (h : mark ∉ cs) :
    splitAll mark cs = [cs] := by
  induction cs with
  | nil => rfl
  | cons c rest ih =>
      simp only [List.mem_cons, not_or] at h
      simp [splitAll, Ne.symm h.1, ih h.2]

theorem splitAll_append {mark : Char} {before : List Char} (after : List Char)
    (h : mark ∉ before) :
    splitAll mark (before ++ mark :: after) = before :: splitAll mark after := by
  induction before with
  | nil => simp [splitAll]
  | cons c rest ih =>
      simp only [List.mem_cons, not_or] at h
      simp [splitAll, Ne.symm h.1, ih h.2]

/-- A text without the mark is one part; any other is split at its first mark. -/
theorem splitAll_cases (mark : Char) (cs : List Char) :
    mark ∉ cs ∧ splitAll mark cs = [cs] ∨
      ∃ before after, mark ∉ before ∧ cs = before ++ mark :: after ∧
        splitAll mark cs = before :: splitAll mark after := by
  cases split : splitFirst? mark cs with
  | none =>
      have unmarked := splitFirst?_eq_none_iff.mp split
      exact .inl ⟨unmarked, splitAll_of_not_mem unmarked⟩
  | some parts =>
      obtain ⟨rfl, unmarked⟩ := eq_append_of_splitFirst? split
      exact .inr ⟨_, _, unmarked, rfl, splitAll_append _ unmarked⟩

/-- The parts of a text are those that have no mark in them and make up the text with one mark
between any two. -/
theorem splitAll_eq_iff {mark : Char} {cs : List Char} {parts : List (List Char)} :
    splitAll mark cs = parts ↔
      parts ≠ [] ∧ (∀ part ∈ parts, mark ∉ part) ∧ cs = [mark].intercalate parts := by
  induction parts generalizing cs with
  | nil =>
      rcases splitAll_cases mark cs with ⟨-, split⟩ | ⟨before, after, -, -, split⟩
      · simp [split]
      · simp [split]
  | cons part parts ih =>
      constructor
      · intro split
        rcases splitAll_cases mark cs with ⟨unmarked, whole⟩ | ⟨before, after, unmarked, rfl, first⟩
        · rw [whole, List.cons.injEq] at split
          obtain ⟨rfl, rfl⟩ := split
          simpa using unmarked
        · rw [first, List.cons.injEq] at split
          obtain ⟨rfl, rest⟩ := split
          obtain ⟨nonempty, clear, rfl⟩ := ih.mp rest
          refine ⟨List.cons_ne_nil _ _, List.forall_mem_cons.mpr ⟨unmarked, clear⟩, ?_⟩
          rw [List.intercalate_cons_of_ne_nil nonempty, List.append_assoc, List.singleton_append]
      · rintro ⟨-, clear, rfl⟩
        obtain ⟨unmarked, clear⟩ := List.forall_mem_cons.mp clear
        cases parts with
        | nil => rw [List.intercalate_singleton, splitAll_of_not_mem unmarked]
        | cons next parts =>
            rw [List.intercalate_cons_cons, List.append_assoc, List.singleton_append,
              splitAll_append _ unmarked, ih.mpr ⟨List.cons_ne_nil _ _, clear, rfl⟩]

/-- Whether a text occurs somewhere in another. -/
def occursIn (part : List Char) : List Char → Bool
  | [] => part.isEmpty
  | c :: rest => part.isPrefixOf (c :: rest) || occursIn part rest

end Text

end Gatekeeper
