import Mathlib.Data.List.Basic
import Mathlib.Data.List.TakeDrop
import Mathlib.Data.List.TakeWhile
import Gatekeeper.Text.LooseInteger
import Gatekeeper.Proofs.Text.Integer

/-!
# Decimal numbers are read back loosely

What is superfluous in an integer is taken away before it is read.  In the decimal digits
of a natural number nothing is, so they are read as that number, unless there are more of
them than are converted.
-/

namespace Gatekeeper

namespace Text

/-! ## Digits with nothing superfluous -/

/-- One or more digits without superfluous zeros in front. -/
structure PlainDigits (cs : List Char) : Prop where
  digits : ∀ c ∈ cs, c.isDigit = true
  nonempty : cs ≠ []
  unpadded : cs.head? = some '0' → cs.length = 1

/-- Only zero is written with a zero in front. -/
theorem eq_zero_of_head?_toDigits {n : Nat} (zero : (Nat.toDigits 10 n).head? = some '0') :
    n = 0 := by
  induction n using Nat.strongRecOn with
  | ind n ih =>
      by_cases single : n < 10
      · have value := congrArg (fun cs => Nat.ofDigitChars 10 cs 0)
          (Nat.toDigits_of_lt_base (b := 10) single)
        rw [Nat.toDigits_of_lt_base single, List.head?_cons, Option.some.injEq] at zero
        rw [zero, Nat.ofDigitChars_ten_toDigits] at value
        exact value
      · -- the first digit stays the same without the last one
        have later := Nat.toDigits_of_base_le (by decide) (Nat.le_of_not_lt single)
        rw [later, List.head?_append_of_ne_nil _ Nat.toDigits_ne_nil] at zero
        have front := ih (n / 10) (by omega) zero
        omega

theorem plainDigits_toDigits (n : Nat) : PlainDigits (Nat.toDigits 10 n) where
  digits := fun _ => Nat.isDigit_of_mem_toDigits (by decide) (by decide)
  nonempty := Nat.toDigits_ne_nil
  unpadded := by
    intro zero
    rw [eq_zero_of_head?_toDigits zero]
    rfl

namespace PlainDigits

variable {cs : List Char}

theorem forall_ne (plain : PlainDigits cs) {mark : Char} (other : mark.isDigit = false) :
    ∀ c ∈ cs, c ≠ mark := by
  rintro c member rfl
  rw [plain.digits c member] at other
  cases other

theorem dropLeadingZeros?_eq (plain : PlainDigits cs) : dropLeadingZeros? cs = some cs := by
  cases cs with
  | nil => exact absurd rfl plain.nonempty
  | cons c rest =>
      by_cases zero : c = '0'
      · subst zero
        have single : rest = [] := by simpa using plain.unpadded rfl
        rw [single]
        rfl
      · rw [dropLeadingZeros?, if_neg zero, if_pos (plain.digits c List.mem_cons_self)]

theorem dropZeroFraction_eq (plain : PlainDigits cs) : dropZeroFraction cs = cs := by
  have pointless : ∀ c ∈ cs, decide (c ≠ '.') = true := by
    simpa using plain.forall_ne (by decide)
  have whole : cs.span (· ≠ '.') = (cs, []) := by
    rw [List.span_eq_takeWhile_dropWhile, List.takeWhile_eq_self_iff.mpr pointless,
      List.dropWhile_eq_nil_iff.mpr pointless]
  rw [dropZeroFraction, whole]

theorem dropUnderscores_eq (plain : PlainDigits cs) : dropUnderscores cs = cs := by
  have kept : cs.filter (· ≠ '_') = cs := by
    simpa using plain.forall_ne (by decide)
  rw [dropUnderscores, kept, ite_self]

theorem unsigned?_eq (plain : PlainDigits cs) : plain?.unsigned? cs = some cs := by
  rw [plain?.unsigned?, plain.dropLeadingZeros?_eq, Option.map_some, Function.comp_apply,
    plain.dropZeroFraction_eq, plain.dropUnderscores_eq]

theorem plain?_eq (plain : PlainDigits cs) : plain? cs = some cs := by
  rw [plain?]
  · exact plain.unsigned?_eq
  · rintro rest rfl
    exact plain.forall_ne (by decide) '+' List.mem_cons_self rfl
  · rintro rest rfl
    exact plain.forall_ne (by decide) '-' List.mem_cons_self rfl

theorem filterMap_asciiDigitValue? (plain : PlainDigits cs) :
    cs.filterMap asciiDigitValue? = cs.map fun c => c.toNat - 48 := by
  rw [← List.filterMap_eq_map]
  refine List.filterMap_congr fun c member => ?_
  exact if_pos (plain.digits c member)

/-- Digits with nothing superfluous are read as the number that they stand for, if they are few
enough. -/
theorem readPlainInteger_eq (plain : PlainDigits cs) :
    readPlainInteger cs =
      if digitLimit < cs.length then .error (.tooLong cs.length)
      else .ok (Nat.ofDigitChars 10 cs 0 : Int) := by
  have all : cs.takeWhile Char.isDigit = cs := List.takeWhile_eq_self_iff.mpr plain.digits
  have proper : ¬ (cs = [] ∨ cs.head? = some '0' ∧ cs.length ≠ 1) := by
    rintro (empty | ⟨zero, long⟩)
    · exact plain.nonempty empty
    · exact long (plain.unpadded zero)
  rw [readPlainInteger, splitSign_of_digits plain.nonempty plain.digits]
  dsimp only
  rw [all, if_neg proper, if_neg Bool.false_ne_true, Nat.add_zero, if_pos rfl,
    plain.filterMap_asciiDigitValue?, signed, if_neg Bool.false_ne_true,
    ofDigits_map_eq_ofDigitChars]

end PlainDigits

/-! ## Numbers -/

theorem lt_length_toDigits_pow (k : Nat) (positive : 0 < k) :
    k < (Nat.toDigits 10 (Nat.pow 10 k)).length := by
  refine Nat.lt_of_not_le fun short => ?_
  exact Nat.lt_irrefl _ ((Nat.length_toDigits_le_iff (by decide) positive).mp short)

theorem readLooseInteger_repr (n : Nat) :
    readLooseInteger n.repr =
      if digitLimit < (Nat.toDigits 10 n).length then
        .error (.tooLong (Nat.toDigits 10 n).length)
      else .ok (n : Int) := by
  have plain := plainDigits_toDigits n
  rw [readLooseInteger, Nat.toList_repr, trim_of_digits plain.digits, plain.plain?_eq]
  dsimp only
  rw [plain.readPlainInteger_eq, Nat.ofDigitChars_ten_toDigits]

end Text

end Gatekeeper
