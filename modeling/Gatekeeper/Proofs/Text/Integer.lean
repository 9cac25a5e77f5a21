import Gatekeeper.Text.Integer

/-!
# Decimal numbers are read back

The decimal digits of a natural number, if they are not too many, are read as
that number.
-/

namespace Gatekeeper

namespace Text

/-! ## ASCII digits -/

theorem isDigit_bounds {c : Char} (h : c.isDigit = true) : 48 ≤ c.toNat ∧ c.toNat ≤ 57 :=
  Char.isDigit_iff_toNat.mp h

theorem digitValue?_of_isDigit {c : Char} (h : c.isDigit = true) :
    digitValue? c = some (c.toNat - 48) := by
  have bounds := isDigit_bounds h
  rw [digitValue?, if_pos (by omega), if_pos h]

theorem isWhiteSpace_of_isDigit {c : Char} (h : c.isDigit = true) : isWhiteSpace c = false := by
  have bounds := isDigit_bounds h
  simp only [isWhiteSpace, Bool.or_eq_false_iff, Bool.and_eq_false_iff, decide_eq_false_iff_not,
    beq_eq_false_iff_ne]
  omega

theorem groupedDigits?_of_isDigit {cs : List Char} (nonempty : cs ≠ [])
    (digits : ∀ c ∈ cs, c.isDigit = true) :
    groupedDigits? digitValue? cs = some (cs.map fun c => c.toNat - 48) := by
  induction cs with
  | nil => exact absurd rfl nonempty
  | cons c rest ih =>
      have head := digitValue?_of_isDigit (digits c List.mem_cons_self)
      cases rest with
      | nil => simp [groupedDigits?, head]
      | cons d rest =>
          have plain : d ≠ '_' := by
            rintro rfl
            exact absurd (digits '_' (by simp)) (by decide)
          have tail := ih (List.cons_ne_nil d rest) fun x hx =>
            digits x (List.mem_cons_of_mem c hx)
          rw [groupedDigits?]
          · rw [head, tail]
            rfl
          · simp
          · intro rest' same
            exact plain (List.cons.inj same).1

theorem splitSign_of_isDigit {c : Char} (h : c.isDigit = true) (rest : List Char) :
    splitSign (c :: rest) = (false, c :: rest) := by
  have bounds := isDigit_bounds h
  rw [splitSign]
  · rintro rest' same
    obtain ⟨rfl, _⟩ := List.cons.inj same
    simp at bounds
  · rintro rest' same
    obtain ⟨rfl, _⟩ := List.cons.inj same
    simp at bounds

theorem trim_of_digits {cs : List Char} (digits : ∀ c ∈ cs, c.isDigit = true) :
    trim isWhiteSpace cs = cs :=
  trim_of_forall fun c member => isWhiteSpace_of_isDigit (digits c member)

theorem splitSign_of_digits {cs : List Char} (nonempty : cs ≠ [])
    (digits : ∀ c ∈ cs, c.isDigit = true) : splitSign cs = (false, cs) := by
  cases cs with
  | nil => exact absurd rfl nonempty
  | cons c rest => exact splitSign_of_isDigit (digits c List.mem_cons_self) rest

theorem leadingDigits_le_length (value? : Char → Option Nat) (cs : List Char) :
    leadingDigits value? cs ≤ cs.length := by
  unfold leadingDigits
  dsimp only
  split
  · exact Nat.le_trans (List.length_filter_le _ _) (List.takeWhile_sublist _).length_le
  · exact Nat.zero_le _

/-! ## Numbers -/

theorem ofDigits_map_eq_ofDigitChars (cs : List Char) :
    ofDigits (cs.map fun c => c.toNat - 48) = Nat.ofDigitChars 10 cs 0 := by
  rw [ofDigits, Nat.ofDigitChars_eq_foldl, List.foldl_map]
  rfl

theorem isDigit_of_mem_repr {n : Nat} {c : Char} (h : c ∈ n.repr.toList) : c.isDigit = true := by
  rw [Nat.toList_repr] at h
  exact Nat.isDigit_of_mem_toDigits (by decide) (by decide) h

theorem readInteger_repr {n : Nat} (short : (Nat.toDigits 10 n).length ≤ digitLimit) :
    readInteger n.repr = .ok (n : Int) := by
  have digits : ∀ c ∈ Nat.toDigits 10 n, c.isDigit = true :=
    fun c => Nat.isDigit_of_mem_toDigits (by decide) (by decide)
  have few : ¬ digitLimit < leadingDigits digitValue? (Nat.toDigits 10 n) :=
    Nat.not_lt.mpr (Nat.le_trans (leadingDigits_le_length _ _) short)
  rw [readInteger, Nat.toList_repr, trim_of_digits digits,
    splitSign_of_digits Nat.toDigits_ne_nil digits]
  dsimp only
  rw [if_neg few, groupedDigits?_of_isDigit Nat.toDigits_ne_nil digits]
  simp [signed, ofDigits_map_eq_ofDigitChars]

end Text

end Gatekeeper
