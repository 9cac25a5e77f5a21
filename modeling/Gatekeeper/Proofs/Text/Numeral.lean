import Mathlib.Data.List.TakeWhile
import Gatekeeper.Proofs.Text.Integer

/-!
# Which texts are integers

A numeral is an optional sign and digits, with single underscores between the digits and
white space around it all.  A text is read as an integer exactly if it is a numeral of no
more digits than are converted; the underscores and the white space do not count.
-/

namespace Gatekeeper

namespace Text

/-! ## Numerals -/

/-- Digits, any two of them with or without an underscore in between, and their values. -/
inductive Grouped : List Char → List Nat → Prop where
  | last {c : Char} {d : Nat} (digit : digitValue? c = some d) : Grouped [c] [d]
  | next {c : Char} {d : Nat} {rest : List Char} {ds : List Nat} (digit : digitValue? c = some d)
      (later : Grouped rest ds) : Grouped (c :: rest) (d :: ds)
  | marked {c : Char} {d : Nat} {rest : List Char} {ds : List Nat} (digit : digitValue? c = some d)
      (later : Grouped rest ds) : Grouped (c :: '_' :: rest) (d :: ds)

/-- What stands before the digits, and whether it makes the number negative. -/
inductive Sign : List Char → Bool → Prop where
  | absent : Sign [] false
  | plus : Sign ['+'] false
  | minus : Sign ['-'] true

/-- A text that is a sign and digits between white space, with the values of the digits and the
number that they stand for. -/
def Numeral (cs : List Char) (digits : List Nat) (n : Int) : Prop :=
  ∃ before sign body after negative, cs = before ++ (sign ++ body) ++ after ∧
    (∀ c ∈ before, isWhiteSpace c = true) ∧ (∀ c ∈ after, isWhiteSpace c = true) ∧
    Sign sign negative ∧ Grouped body digits ∧ n = signed negative digits

/-! ## Digits -/

theorem digitValue?_underscore : digitValue? '_' = none := by
  decide

/-- No run of ten digits meets the white space. -/
theorem zeroDigits_bounds : ∀ start ∈ zeroDigits, start = 0x30 ∨ 0xa0 < start ∧
    (start + 10 ≤ 0x1680 ∨ 0x1680 < start) ∧ (start + 10 ≤ 0x2000 ∨ 0x3000 < start) := by
  decide

theorem isWhiteSpace_of_digit {c : Char} {d : Nat} (digit : digitValue? c = some d) :
    isWhiteSpace c = false := by
  rw [digitValue?] at digit
  split at digit
  · by_cases ascii : c.isDigit = true
    · exact isWhiteSpace_of_isDigit ascii
    · rw [if_neg ascii] at digit
      cases digit
  · obtain ⟨start, found, -⟩ := Option.map_eq_some_iff.mp digit
    have bounds := zeroDigits_bounds start (List.mem_of_find?_eq_some found)
    have within := List.find?_some found
    simp only [Bool.and_eq_true, decide_eq_true_eq] at within
    simp only [isWhiteSpace, Bool.or_eq_false_iff, Bool.and_eq_false_iff, decide_eq_false_iff_not,
      beq_eq_false_iff_ne]
    omega

/-- The letters of a numeral begin with a digit. -/
theorem Grouped.head {cs : List Char} {ds : List Nat} (grouped : Grouped cs ds) :
    ∃ c rest d, cs = c :: rest ∧ digitValue? c = some d := by
  cases grouped with
  | last digit => exact ⟨_, _, _, rfl, digit⟩
  | next digit later => exact ⟨_, _, _, rfl, digit⟩
  | marked digit later => exact ⟨_, _, _, rfl, digit⟩

theorem ne_of_digit {c mark : Char} {d : Nat} (digit : digitValue? c = some d)
    (other : digitValue? mark = none) : c ≠ mark := by
  rintro rfl
  rw [other] at digit
  cases digit

theorem groupedDigits?_cons {c : Char} {rest : List Char} {d : Nat} {ds : List Nat}
    (digit : digitValue? c = some d) (later : Grouped rest ds) :
    groupedDigits? digitValue? (c :: rest) = (groupedDigits? digitValue? rest).map (d :: ·) := by
  obtain ⟨first, rest', d', rfl, digit'⟩ := later.head
  have unmarked := ne_of_digit digit' digitValue?_underscore
  rw [groupedDigits?]
  · rw [digit]
  · exact List.cons_ne_nil first rest'
  · intro after same
    exact unmarked (List.cons.inj same).1

theorem grouped_of_groupedDigits? {cs : List Char} {ds : List Nat}
    (read : groupedDigits? digitValue? cs = some ds) : Grouped cs ds := by
  induction cs using groupedDigits?.induct digitValue? generalizing ds with
  | case1 => cases read
  | case2 c =>
      obtain ⟨d, digit, rfl⟩ := Option.map_eq_some_iff.mp read
      exact .last digit
  | case3 c rest d digit ih =>
      rw [groupedDigits?, digit] at read
      obtain ⟨ds, later, rfl⟩ := Option.map_eq_some_iff.mp read
      exact .marked digit (ih later)
  | case4 c rest other =>
      rw [groupedDigits?, other] at read
      cases read
  | case5 c rest more unmarked d digit ih =>
      rw [groupedDigits?.eq_4 digitValue? c rest more unmarked, digit] at read
      obtain ⟨ds, later, rfl⟩ := Option.map_eq_some_iff.mp read
      exact .next digit (ih later)
  | case6 c rest more unmarked other =>
      rw [groupedDigits?.eq_4 digitValue? c rest more unmarked, other] at read
      cases read

theorem groupedDigits?_eq_some_iff {cs : List Char} {ds : List Nat} :
    groupedDigits? digitValue? cs = some ds ↔ Grouped cs ds := by
  refine ⟨grouped_of_groupedDigits?, fun grouped => ?_⟩
  induction grouped with
  | last digit => rw [groupedDigits?, digit, Option.map_some]
  | next digit later ih => rw [groupedDigits?_cons digit later, ih, Option.map_some]
  | marked digit later ih =>
      rw [groupedDigits?, digit]
      dsimp only
      rw [ih, Option.map_some]

/-- Digits and underscores are all that a numeral has between its sign and its end. -/
theorem Grouped.letters {cs : List Char} {ds : List Nat} (grouped : Grouped cs ds) :
    (∀ c ∈ cs, (digitValue? c).isSome = true ∨ c = '_') ∧
      (cs.filter (· ≠ '_')).length = ds.length := by
  induction grouped with
  | @last c d digit =>
      have unmarked := ne_of_digit digit digitValue?_underscore
      simp [digit, unmarked]
  | @next c d rest ds digit later ih =>
      have unmarked := ne_of_digit digit digitValue?_underscore
      refine ⟨List.forall_mem_cons.mpr ⟨.inl (by rw [digit]; rfl), ih.1⟩, ?_⟩
      rw [List.filter_cons_of_pos (by simpa using unmarked), List.length_cons, ih.2,
        List.length_cons]
  | @marked c d rest ds digit later ih =>
      have unmarked := ne_of_digit digit digitValue?_underscore
      refine ⟨List.forall_mem_cons.mpr ⟨.inl (by rw [digit]; rfl),
        List.forall_mem_cons.mpr ⟨.inr rfl, ih.1⟩⟩, ?_⟩
      rw [List.filter_cons_of_pos (by simpa using unmarked),
        List.filter_cons_of_neg (by simp), List.length_cons, ih.2, List.length_cons]

theorem Grouped.leadingDigits_eq {cs : List Char} {ds : List Nat} (grouped : Grouped cs ds) :
    leadingDigits digitValue? cs = ds.length := by
  obtain ⟨letters, count⟩ := grouped.letters
  have whole : (cs.takeWhile fun c => (digitValue? c).isSome || decide (c = '_')) = cs := by
    refine List.takeWhile_eq_self_iff.mpr ?_
    simpa using letters
  rw [leadingDigits, whole, groupedDigits?_eq_some_iff.mpr grouped]
  exact count

/-! ## Signs and white space -/

theorem Sign.of_splitSign {cs rest : List Char} {negative : Bool}
    (split : splitSign cs = (negative, rest)) :
    ∃ sign, cs = sign ++ rest ∧ Sign sign negative := by
  unfold splitSign at split
  split at split
  · cases split
    exact ⟨['+'], rfl, .plus⟩
  · cases split
    exact ⟨['-'], rfl, .minus⟩
  · cases split
    exact ⟨[], rfl, .absent⟩

theorem Sign.splitSign_append {sign body : List Char} {negative : Bool} {ds : List Nat}
    (signed : Sign sign negative) (grouped : Grouped body ds) :
    splitSign (sign ++ body) = (negative, body) := by
  cases signed with
  | plus => rfl
  | minus => rfl
  | absent =>
      obtain ⟨c, rest, d, rfl, digit⟩ := grouped.head
      have no_plus : c ≠ '+' := ne_of_digit digit (by decide)
      have no_minus : c ≠ '-' := ne_of_digit digit (by decide)
      rw [List.nil_append, splitSign]
      · intro rest' same
        exact no_plus (List.cons.inj same).1
      · intro rest' same
        exact no_minus (List.cons.inj same).1

theorem not_whiteSpace_of_mem {sign body : List Char} {negative : Bool} {ds : List Nat}
    (signed : Sign sign negative) (grouped : Grouped body ds) {c : Char}
    (letter : c ∈ sign ++ body) : isWhiteSpace c = false := by
  rcases List.mem_append.mp letter with ahead | within
  · cases signed with
    | absent => cases ahead
    | plus => rw [List.mem_singleton.mp ahead]; decide
    | minus => rw [List.mem_singleton.mp ahead]; decide
  · rcases grouped.letters.1 c within with digit | rfl
    · obtain ⟨d, digit⟩ := Option.isSome_iff_exists.mp digit
      exact isWhiteSpace_of_digit digit
    · decide

/-! ## Reading -/

/-- A text is read as an integer exactly if it is a numeral of it with few enough digits. -/
theorem readInteger_eq_ok_iff {s : String} {n : Int} :
    readInteger s = .ok n ↔ ∃ digits, Numeral s.toList digits n ∧ digits.length ≤ digitLimit := by
  rw [readInteger]
  constructor
  · intro read
    obtain ⟨before, after, whole, ahead, behind⟩ := exists_trim isWhiteSpace s.toList
    generalize trim isWhiteSpace s.toList = core at read whole
    cases split : splitSign core with
    | mk negative rest =>
      obtain ⟨sign, rfl, signed⟩ := Sign.of_splitSign split
      rw [split] at read
      dsimp only at read
      by_cases long : digitLimit < leadingDigits digitValue? rest
      · rw [if_pos long] at read
        cases read
      · rw [if_neg long] at read
        cases grouped : groupedDigits? digitValue? rest with
        | none =>
            rw [grouped] at read
            cases read
        | some digits =>
            rw [grouped, Except.ok.injEq] at read
            have grouped := groupedDigits?_eq_some_iff.mp grouped
            rw [grouped.leadingDigits_eq] at long
            exact ⟨digits, ⟨before, sign, rest, after, negative, whole, ahead, behind, signed,
              grouped, read.symm⟩, Nat.not_lt.mp long⟩
  · rintro ⟨digits, ⟨before, sign, body, after, negative, whole, ahead, behind, signed, grouped,
      rfl⟩, few⟩
    rw [whole, trim_surrounded ahead (fun _ => not_whiteSpace_of_mem signed grouped) behind,
      signed.splitSign_append grouped]
    dsimp only
    rw [grouped.leadingDigits_eq, if_neg (Nat.not_lt.mpr few),
      groupedDigits?_eq_some_iff.mpr grouped]

end Text

end Gatekeeper
